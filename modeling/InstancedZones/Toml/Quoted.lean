import InstancedZones.Text.Code

/-!
# Quoted text

A text stands in quotation marks of one of two kinds, on one line or over
several. Inside double quotes a backslash starts an escape; inside single
quotes every character stands for itself. Over several lines the text may hold
one or two quotation marks in a row, so three of them end it, and up to two
more that follow still belong to the text.

Reading goes character by character through the states of `Mode`; writing
picks the simplest form that can hold the text.
-/

namespace InstancedZones.Toml

/-- A blank within a line. -/
def isBlank (c : Char) : Bool := c == ' ' || c == '\t'

/-- A character that can stand in a line: all but the control characters, and
of those the tab. -/
def isText (c : Char) : Bool := c == '\t' || (' ' ≤ c && c != '\x7f')

/-- One of the four forms of quoted text. -/
structure Quoting where
  /-- The quotation mark. -/
  mark : Char
  /-- Whether a backslash starts an escape. -/
  escapes : Bool
  /-- Whether the text may go over several lines. -/
  multiline : Bool
deriving DecidableEq

namespace Quoting

/-- Double quotes, one line. -/
def basic : Quoting := ⟨'"', true, false⟩

/-- Single quotes, one line. -/
def literal : Quoting := ⟨'\'', false, false⟩

/-- Double quotes, several lines. -/
def basicLines : Quoting := ⟨'"', true, true⟩

/-- Single quotes, several lines. -/
def literalLines : Quoting := ⟨'\'', false, true⟩

/-- How many quotation marks end the text. -/
def closing (q : Quoting) : Nat := if q.multiline then 3 else 1

/-- How many quotation marks in a row can belong to the text. -/
def inner (q : Quoting) : Nat := if q.multiline then 2 else 0

/-- The quotation marks around the text. -/
def fence (q : Quoting) : List Char := List.replicate q.closing q.mark

end Quoting

/-! ## Reading -/

/-- What an escape of one letter stands for. -/
def escaped? (c : Char) : Option Char :=
  if c = 'b' then some '\x08'
  else if c = 't' then some '\t'
  else if c = 'n' then some '\n'
  else if c = 'f' then some '\x0c'
  else if c = 'r' then some '\r'
  else if c = '"' then some '"'
  else if c = '\\' then some '\\'
  else none

/-- Where a reader stands inside quoted text. -/
inductive Mode
  /-- Between two characters of the text. -/
  | plain
  /-- After a backslash. -/
  | escape
  /-- Within an escape by code: `left` more digits follow the next one. -/
  | code (left value : Nat)
  /-- After a backslash and blanks, before the end of the line. -/
  | blank
  /-- After a backslash and the end of the line: blanks and line ends are skipped. -/
  | skip
  /-- After so many quotation marks in a row. -/
  | marks (count : Nat)
deriving DecidableEq

/-- Takes a character of the text itself: what it adds, and what follows. -/
def Quoting.plainMove (q : Quoting) (c : Char) : Option (List Char × Mode) :=
  if c = q.mark then some ([], .marks 1)
  else if c = '\\' ∧ q.escapes then some ([], .escape)
  else if c = '\n' then if q.multiline then some (['\n'], .plain) else none
  else if isText c then some ([c], .plain)
  else none

/-- Takes the next character: what it adds to the text, and what follows. -/
def Quoting.move (q : Quoting) (mode : Mode) (c : Char) : Option (List Char × Mode) :=
  match mode with
  | .plain => q.plainMove c
  | .escape =>
    match escaped? c with
    | some e => some ([e], .plain)
    | none =>
      if c = 'u' then some ([], .code 3 0)
      else if c = 'U' then some ([], .code 7 0)
      else if q.multiline ∧ isBlank c then some ([], .blank)
      else if q.multiline ∧ c = '\n' then some ([], .skip)
      else none
  | .code left value =>
    match Text.hexValue? c with
    | none => none
    | some digit =>
      match left with
      | 0 => (Text.charOfCode? (value * 16 + digit)).map fun e => ([e], .plain)
      | left + 1 => some ([], .code left (value * 16 + digit))
  | .blank =>
    if isBlank c then some ([], .blank)
    else if c = '\n' then some ([], .skip)
    else none
  | .skip => if isBlank c ∨ c = '\n' then some ([], .skip) else q.plainMove c
  | .marks count =>
    if c = q.mark then some ([], .marks (count + 1))
    else (q.plainMove c).map fun (text, next) => (List.replicate count q.mark ++ text, next)

/-- The quotation marks that still belong to the text when it ends before `c`
(or before the end of everything); nothing if it does not end there. -/
def Quoting.ends (q : Quoting) (mode : Mode) (c : Option Char) : Option (List Char) :=
  match mode with
  | .marks count =>
    if q.closing ≤ count ∧ (c ≠ some q.mark ∨ count = q.closing + q.inner) then
      some (List.replicate (count - q.closing) q.mark)
    else none
  | _ => none

/-- Reads the rest of a quoted text: the text, and what follows the closing
quotation marks. -/
def Quoting.read (q : Quoting) : Mode → List Char → Option (List Char × List Char)
  | mode, [] => (q.ends mode none).map (·, [])
  | mode, c :: rest =>
    match q.ends mode (some c) with
    | some text => some (text, c :: rest)
    | none =>
      match q.move mode c with
      | none => none
      | some (text, next) => (q.read next rest).map fun (more, after) => (text ++ more, after)

/-- Reads a quoted text in any of its forms. A line end right after opening
marks for several lines does not count. -/
def readQuoted : List Char → Option (List Char × List Char)
  | '"' :: '"' :: '"' :: '\n' :: rest => Quoting.basicLines.read .plain rest
  | '"' :: '"' :: '"' :: rest => Quoting.basicLines.read .plain rest
  | '"' :: rest => Quoting.basic.read .plain rest
  | '\'' :: '\'' :: '\'' :: '\n' :: rest => Quoting.literalLines.read .plain rest
  | '\'' :: '\'' :: '\'' :: rest => Quoting.literalLines.read .plain rest
  | '\'' :: rest => Quoting.literal.read .plain rest
  | _ => none

/-! ## Writing -/

/-- Whether a character is a control character that no text in quotes shows as
it is. -/
def isHidden (c : Char) : Bool := (c < ' ' && c != '\t' && c != '\n') || c == '\x7f'

/-- The longest run of a character. -/
def longestRun (mark : Char) (text : List Char) : Nat :=
  (text.foldl (fun (best, run) c => if c = mark then (max best (run + 1), run + 1) else (best, 0))
    (0, 0)).1

/-- The form a text is written in: the first that holds it without escapes,
and double quotes with escapes if none does. -/
def Quoting.forText (text : List Char) : Quoting :=
  let hidden := text.any isHidden
  let backslash := text.contains '\\'
  let lines := text.contains '\n'
  let single := longestRun '\'' text
  let double := longestRun '"' text
  if !hidden && !backslash && double == 0 && !lines then .basic
  else if !hidden && single == 0 && !lines then .literal
  else if !hidden && !backslash && double ≤ 2 then .basicLines
  else if !hidden && single ≤ 2 then .literalLines
  else if lines then .basicLines
  else .basic

/-- A hexadecimal digit, in capitals. -/
def hexDigit (n : Nat) : Char := if n < 10 then Char.ofNat (48 + n) else Char.ofNat (55 + n)

/-- A character as it is written inside double quotes, where a quotation mark
is escaped only if `mustEscape` holds. -/
def escapeChar (multiline mustEscape : Bool) (c : Char) : List Char :=
  if c = '\x08' then ['\\', 'b']
  else if c = '\t' then ['\\', 't']
  else if c = '\n' then if multiline then ['\n'] else ['\\', 'n']
  else if c = '\x0c' then ['\\', 'f']
  else if c = '\r' then ['\\', 'r']
  else if c = '"' then if mustEscape then ['\\', '"'] else ['"']
  else if c = '\\' then ['\\', '\\']
  else if c < ' ' ∨ c = '\x7f' then
    ['\\', 'u', '0', '0', hexDigit (c.toNat / 16), hexDigit (c.toNat % 16)]
  else [c]

/-- A text inside double quotes, after `run` quotation marks in a row. -/
def escapeText (q : Quoting) : Nat → List Char → List Char
  | _, [] => []
  | run, c :: rest =>
    let mustEscape := q.inner ≤ run
    escapeChar q.multiline mustEscape c ++
      escapeText q (if c = '"' ∧ !mustEscape then run + 1 else 0) rest

/-- Writes a text in quotes. -/
def writeQuoted (text : List Char) : List Char :=
  let q := Quoting.forText text
  let body := if q.escapes then escapeText q 0 text else text
  let body := if q.multiline ∧ '\n' ∈ text then '\n' :: body else body
  q.fence ++ body ++ q.fence

end InstancedZones.Toml
