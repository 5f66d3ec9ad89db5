import InstancedZones.Text.Blank
import InstancedZones.Text.Code

/-!
# Single parts of a pattern

A pattern is about characters until its flags turn it to bytes. Of characters
nothing is known but their numbers, so as long as it is about them there are no
classes of digits, blanks or word characters, no edges of words, and case
cannot be ignored. About bytes, these mean what they mean in ASCII, but nothing
may match a part of a character.
-/

namespace InstancedZones.Text.Pattern

/-- How a part of a pattern is to be taken. -/
structure Flags where
  /-- It is about characters, not bytes. -/
  characters : Bool
  /-- Case makes no difference. -/
  ignoreCase : Bool
  /-- Blanks, and comments up to the line end, do not count. -/
  spaced : Bool
deriving DecidableEq, Repr

namespace Flags

/-- How a pattern is to be taken at first. -/
def initial : Flags := ⟨true, false, false⟩

/-- The flags with some letters turned on and others turned off. -/
def turned (f : Flags) (on off : List Char) : Flags :=
  let flag (letter : Char) (old : Bool) : Bool := letter ∈ on || (old && letter ∉ off)
  ⟨flag 'u' f.characters, flag 'i' f.ignoreCase, flag 'x' f.spaced⟩

end Flags

/-- Skips blanks and comments, being within a comment or not. -/
def skipSpaces : Bool → List Char → List Char
  | _, [] => []
  | true, c :: s => skipSpaces (c ≠ '\n') s
  | false, c :: s =>
    if isBlank c then skipSpaces false s else if c = '#' then skipSpaces true s else c :: s

/-- Skips what does not count. -/
def Flags.skip (f : Flags) (s : List Char) : List Char :=
  if f.spaced then skipSpaces false s else s

/-- The character after a hyphen in a set: blanks do not count if they do not
count elsewhere, nor does the first sign of a comment. -/
def Flags.peek (f : Flags) (s : List Char) : Option Char :=
  if f.spaced then
    match s.dropWhile isBlank with
    | '#' :: s => (s.dropWhile isBlank).head?
    | s => s.head?
  else s.head?

/-! ## Parts -/

/-- A single part of a pattern. -/
inductive Part
  /-- A character, perhaps written as the number of a byte. -/
  | char (c : Char) (isByte : Bool)
  /-- A class of characters, or all characters outside of it. -/
  | kind (negated : Bool)
  /-- An edge of a word, or a place that is none. -/
  | wordEdge
  /-- An end of the text. -/
  | textEnd
deriving DecidableEq, Repr

/-- Whether a part can be searched for. -/
def Flags.allows (f : Flags) : Part → Bool
  | .char c isByte => if f.characters then !f.ignoreCase else !(isByte && 128 ≤ c.toNat)
  | .kind negated => !f.characters && !negated
  | .wordEdge => !f.characters
  | .textEnd => true

/-- Whether a part can be in a set that can be searched for. -/
def Flags.allowsInSet (f : Flags) : Part → Bool
  | .char c _ => if f.characters then !f.ignoreCase else c.toNat < 128
  | .kind negated => !f.characters && !negated
  | .wordEdge => false
  | .textEnd => false

/-- The number written in so many hexadecimal digits, after those that make `value`. -/
def code (f : Flags) : Nat → Nat → List Char → Option (Nat × List Char)
  | 0, value, s => some (value, s)
  | count + 1, value, s =>
    match f.skip s with
    | [] => none
    | c :: s =>
      match hexValue? c with
      | none => none
      | some digit => code f count (value * 16 + digit) s

/-- A character by its number. -/
def charByCode (f : Flags) (count : Nat) (s : List Char) : Option (Part × List Char) := do
  let (n, s) ← code f count 0 s
  return (.char (← charOfCode? n) (count = 2), s)

/-- The control characters that have letters. -/
def controls : List (Char × Char) :=
  [('a', '\x07'), ('f', '\x0c'), ('t', '\t'), ('n', '\n'), ('r', '\r'), ('v', '\x0b')]

/-- The part that follows a backslash. What is no letter and no digit stands
for itself. -/
def escape (f : Flags) : List Char → Option (Part × List Char)
  | [] => none
  | c :: s =>
    if c = 'x' then charByCode f 2 s
    else if c = 'u' then charByCode f 4 s
    else if c = 'U' then charByCode f 8 s
    else if c ∈ ['d', 's', 'w'] then some (.kind false, s)
    else if c ∈ ['D', 'S', 'W'] then some (.kind true, s)
    else if c ∈ ['b', 'B', '<', '>'] then some (.wordEdge, s)
    else if c ∈ ['A', 'z'] then some (.textEnd, s)
    else
      match controls.lookup c with
      | some control => some (.char control false, s)
      | none => if c.toNat < 128 && !c.isAlphanum then some (.char c false, s) else none

end InstancedZones.Text.Pattern
