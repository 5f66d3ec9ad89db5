import InstancedZones.Toml.Value

/-!
# Documents

A document is a text of lines: keys with their values, headers of tables,
comments, and empty lines. A mark for the byte order in front of it does not
count, and a carriage return may stand before a line end, but nowhere else.
-/

namespace InstancedZones.Toml

/-- Takes out the carriage returns before line ends; there must be no others. -/
def normalize : List Char → Option (List Char)
  | '\r' :: '\n' :: rest => (normalize rest).map ('\n' :: ·)
  | c :: rest => if c = '\r' then none else (normalize rest).map (c :: ·)
  | [] => some []

/-- Takes off the mark for the byte order. -/
def dropByteOrderMark : List Char → List Char
  | '\ufeff' :: rest => rest
  | s => s

/-- A key and its value. -/
def pairLine (s : List Char) : Option (Line × List Char) := do
  let (k, s) ← key s
  let s ← eat '=' s
  let (d, s) ← value maxDepth (skipBlanks s)
  return (.pair k d, ← lineEnd s)

/-- A header, after its opening brackets. -/
def headerLine (s : List Char) : Option (Line × List Char) := do
  let (k, s) ← key s
  let s ← eat ']' s
  return (.header k, ← lineEnd s)

/-- A header for a further table of a list, after its opening brackets. -/
def elementLine (s : List Char) : Option (Line × List Char) := do
  let (k, s) ← key s
  let s ← eat ']' s
  let s ← eat ']' s
  return (.element k, ← lineEnd s)

/-- The lines of a text that say something. `fuel` bounds the number of all lines. -/
def lines : Nat → List Char → Option (List Line)
  | 0, _ => none
  | fuel + 1, s =>
    match skipBlanks s with
    | [] => some []
    | '\n' :: rest => lines fuel rest
    | '#' :: rest => lineEnd ('#' :: rest) >>= lines fuel
    | '[' :: '[' :: rest => do
      let (line, s) ← elementLine rest
      return line :: (← lines fuel s)
    | '[' :: rest => do
      let (line, s) ← headerLine rest
      return line :: (← lines fuel s)
    | s => do
      let (line, s) ← pairLine s
      return line :: (← lines fuel s)

/-- The data of a document. -/
def ofChars? (text : List Char) : Option Datum := do
  let text ← normalize text
  let text := dropByteOrderMark text
  recordOfLines (← lines (text.length + 1) text)

end InstancedZones.Toml
