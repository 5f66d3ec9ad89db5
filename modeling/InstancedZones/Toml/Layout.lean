import InstancedZones.Datum
import InstancedZones.Toml.Writer

/-!
# Laying out documents

How a record becomes the lines of a document. The values of a record come first, each on
a line with its name; below them come the tables in it, a record under a header with all
the names that lead to it, and a list of records as tables of one list. Values and tables
each keep their order. A record with no values of its own needs no header, since the
headers below it imply it, unless there is nothing in it at all.

What has no place in such a document has no layout: nothing, moments, numbers below zero,
and lists in which other lists, or tables beside values, are to be found.
-/

namespace InstancedZones.Toml

/-- A single value. -/
def Atom.ofDatum? : Datum → Option Atom
  | .text value => some (.text value)
  | .whole (.ofNat value) => some (.whole value)
  | .truth value => some (.truth value)
  | .real value => some (.real value)
  | _ => none

/-- A value that stands on a line with its name. -/
def Literal.ofDatum? : Datum → Option Literal
  | .list items => (items.mapM Atom.ofDatum?).map .list
  | d => (Atom.ofDatum? d).map .atom

/-- Whether a piece of data is a record. -/
def isRecord : Datum → Bool
  | .record _ => true
  | _ => false

/-- Whether a piece of data is written below the values, as one table or several. -/
def isBelow : Datum → Bool
  | .record _ => true
  | .list items => !items.isEmpty && items.all isRecord
  | _ => false

/-- The lines of the values of a record. -/
def layoutValues? : List (String × Datum) → Option (List OutLine)
  | [] => some []
  | (name, d) :: rest =>
    if isBelow d then layoutValues? rest
    else do return .pair name (← Literal.ofDatum? d) :: (← layoutValues? rest)

/-- The header of a table: a further table of a list always has one, and any other if it
has values or nothing at all. -/
def heading (path : List String) (isElement isImplied : Bool) : List OutLine :=
  if isElement then [.element path] else if isImplied then [] else [.header path]

mutual

/-- The lines of a table, or of all tables of a list. -/
def layoutTable? (path : List String) (isElement : Bool) : Datum → Option (List OutLine)
  | .record entries => do
    let values ← layoutValues? entries
    let below ← layoutBelow? path entries
    return heading path isElement (values.isEmpty && !entries.isEmpty) ++ values ++ below
  | .list items => layoutElements? path items
  | _ => none

/-- The lines of the tables in a record. -/
def layoutBelow? (path : List String) : List (String × Datum) → Option (List OutLine)
  | [] => some []
  | (name, d) :: rest => do
    let first ← if isBelow d then layoutTable? (path ++ [name]) false d else some []
    return first ++ (← layoutBelow? path rest)

/-- The lines of the tables of a list. -/
def layoutElements? (path : List String) : List Datum → Option (List OutLine)
  | [] => some []
  | d :: rest => do return (← layoutTable? path true d) ++ (← layoutElements? path rest)

end

/-- The lines of a document. -/
def layout? : Datum → Option (List OutLine)
  | .record entries => do return (← layoutValues? entries) ++ (← layoutBelow? [] entries)
  | _ => none

/-! ## Numbers that are too large -/

/-- Whether a single value is a whole number that does not fit 64 bits with a sign. -/
def Atom.isLong : Atom → Bool
  | .whole value => 9223372036854775808 ≤ value
  | _ => false

/-- Whether there is such a number in a value. -/
def Literal.isLong : Literal → Bool
  | .atom value => value.isLong
  | .list items => items.any Atom.isLong

/-- Whether there is such a number on a line. -/
def OutLine.isLong : OutLine → Bool
  | .pair _ value => value.isLong
  | _ => false

end InstancedZones.Toml
