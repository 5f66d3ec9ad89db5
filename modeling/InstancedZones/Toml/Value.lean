import InstancedZones.Toml.Number
import InstancedZones.Toml.Table

/-!
# Keys and values

A key is a chain of names joined by points. A value is a text, a number, a
moment, a truth value, a list or a table within a line. Lists may go over
several lines and hold comments; tables within a line may not.

Neither chains nor nested values may be longer or deeper than `maxDepth`.
-/

namespace InstancedZones.Toml

/-- How many names a key may have, and how deep lists and tables may be nested. -/
def maxDepth : Nat := 79

/-- Skips blanks. -/
def skipBlanks (s : List Char) : List Char := s.dropWhile isBlank

/-- Skips a comment, if one starts here. -/
def skipComment : List Char → List Char
  | '#' :: rest => rest.dropWhile isText
  | s => s

/-- Ends a line: blanks, a comment, and then the line end or the end of the text. -/
def lineEnd (s : List Char) : Option (List Char) :=
  match skipComment (skipBlanks s) with
  | [] => some []
  | c :: rest => if c = '\n' then some rest else none

/-- Skips blanks, line ends, and comments with the line ends after them.
`fuel` bounds the number of lines. -/
def skipLines : Nat → List Char → Option (List Char)
  | 0, _ => none
  | fuel + 1, s =>
    match skipBlanks s with
    | '\n' :: rest => skipLines fuel rest
    | '#' :: rest => (eat '\n' (rest.dropWhile isText)) >>= skipLines fuel
    | s => some s

/-! ## Keys -/

/-- A character of a name without quotes. -/
def isBare (c : Char) : Bool :=
  ('A' ≤ c && c ≤ 'Z') || ('a' ≤ c && c ≤ 'z') || isDigit c || c == '_' || c == '-'

/-- One name. -/
def simpleKey (s : List Char) : Option (String × List Char) :=
  match s with
  | '"' :: rest => (Quoting.basic.read .plain rest).map fun (k, s) => (String.ofList k, s)
  | '\'' :: rest => (Quoting.literal.read .plain rest).map fun (k, s) => (String.ofList k, s)
  | s =>
    match s.takeWhile isBare with
    | [] => none
    | name => some (String.ofList name, s.dropWhile isBare)

/-- A chain of at most `fuel` names, with blanks around each. -/
def keyChain : Nat → List Char → Option (Key × List Char)
  | 0, _ => none
  | fuel + 1, s => do
    let (name, s) ← simpleKey (skipBlanks s)
    match skipBlanks s with
    | '.' :: s =>
      let (key, s) ← keyChain fuel s
      return (key.under name, s)
    | s => return (⟨[], name⟩, s)

/-- A key. -/
def key (s : List Char) : Option (Key × List Char) := keyChain maxDepth s

/-! ## Values -/

/-- A value that holds no other values. -/
def scalar (s : List Char) : Option (Datum × List Char) :=
  match s with
  | '"' :: _ => (readQuoted s).map fun (t, s) => (.text (String.ofList t), s)
  | '\'' :: _ => (readQuoted s).map fun (t, s) => (.text (String.ofList t), s)
  | 't' :: 'r' :: 'u' :: 'e' :: s => some (.truth true, s)
  | 'f' :: 'a' :: 'l' :: 's' :: 'e' :: s => some (.truth false, s)
  | 'i' :: 'n' :: 'f' :: s => some (.real (.infinity false), s)
  | 'n' :: 'a' :: 'n' :: s => some (.real .nan, s)
  | c :: _ => if isDigit c || c = '+' || c = '-' then numberOrMoment s else none
  | [] => none

/-- The items of a list and its closing bracket, each item read by `item`.
`fuel` bounds their number. -/
def listItems (item : List Char → Option (Datum × List Char)) :
    Nat → List Char → Option (List Datum × List Char)
  | 0, _ => none
  | fuel + 1, s => do
    let s ← skipLines (s.length + 1) s
    match s with
    | ']' :: s => return ([], s)
    | s =>
      let (d, s) ← item s
      let s ← skipLines (s.length + 1) s
      match s with
      | ',' :: s =>
        let (ds, s) ← listItems item fuel s
        return (d :: ds, s)
      | ']' :: s => return ([d], s)
      | _ => none

/-- The entries of a table within a line and its closing brace, when at least
one must follow. `fuel` bounds their number. -/
def tableEntries (item : List Char → Option (Datum × List Char)) :
    Nat → List Char → Option (List (Key × Datum) × List Char)
  | 0, _ => none
  | fuel + 1, s => do
    let (k, s) ← key s
    let s ← eat '=' s
    let (d, s) ← item (skipBlanks s)
    match skipBlanks s with
    | ',' :: s =>
      let (es, s) ← tableEntries item fuel s
      return ((k, d) :: es, s)
    | '\x7d' :: s => return ([(k, d)], s)
    | _ => none

/-- A value in which others are nested at most so deep. -/
def value : Nat → List Char → Option (Datum × List Char)
  | 0, s => scalar s
  | depth + 1, s =>
    match s with
    | '[' :: s => (listItems (value depth) (s.length + 1) s).map fun (ds, s) => (.list ds, s)
    | '\x7b' :: s =>
      match skipBlanks s with
      | '\x7d' :: s => some (.record [], s)
      | s => do
        let (es, s) ← tableEntries (value depth) (s.length + 1) s
        return (.record (← recordOfEntries es), s)
    | s => scalar s

end InstancedZones.Toml
