import InstancedZones.Decimal.Shortest
import InstancedZones.Toml.Quoted

/-!
# Writing documents

A document is written line by line: keys with their values, and headers with
an empty line before each. A list of two items or more has one item on each
line, with a comma after every one.
-/

namespace InstancedZones.Toml

/-- A value that holds no other values. -/
inductive Atom
  /-- A text. -/
  | text (value : String)
  /-- A whole number. -/
  | whole (value : Nat)
  /-- A truth value. -/
  | truth (value : Bool)
  /-- A number with a fraction. -/
  | real (value : Binary64)

/-- A value that can be written. -/
inductive Literal
  /-- A single value. -/
  | atom (value : Atom)
  /-- A list of such values. -/
  | list (items : List Atom)

/-- How a single value is written. -/
def Atom.chars : Atom → List Char
  | .text value => writeQuoted value.toList
  | .whole value => Nat.toDigits 10 value
  | .truth true => ['t', 'r', 'u', 'e']
  | .truth false => ['f', 'a', 'l', 's', 'e']
  | .real value => value.plain

/-- The items of a long list, each on its own line. -/
def itemLines : List Atom → List Char
  | [] => []
  | item :: rest => [' ', ' ', ' ', ' '] ++ item.chars ++ [',', '\n'] ++ itemLines rest

/-- How a value is written. -/
def Literal.chars : Literal → List Char
  | .atom value => value.chars
  | .list [] => ['[', ']']
  | .list [item] => '[' :: item.chars ++ [']']
  | .list items => ['[', '\n'] ++ itemLines items ++ [']']

/-- A line to be written. -/
inductive OutLine
  /-- A name and its value. -/
  | pair (name : String) (value : Literal)
  /-- The header of a table. -/
  | header (path : List String)
  /-- The header of a further table of a list. -/
  | element (path : List String)

/-- Names joined by points. -/
def joinNames : List String → List Char
  | [] => []
  | [name] => name.toList
  | name :: rest => name.toList ++ '.' :: joinNames rest

/-- How a line is written, with its line end. -/
def OutLine.chars : OutLine → List Char
  | .pair name value => name.toList ++ [' ', '=', ' '] ++ value.chars ++ ['\n']
  | .header path => ['\n', '['] ++ joinNames path ++ [']', '\n']
  | .element path => ['\n', '[', '['] ++ joinNames path ++ [']', ']', '\n']

/-- A document of such lines. -/
def writeLines (lines : List OutLine) : List Char := lines.flatMap OutLine.chars

end InstancedZones.Toml
