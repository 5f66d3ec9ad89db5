import InstancedZones.Datum

/-!
# Tables

How the lines of a document make one record. A table is opened by a header, or
implied by a header further down, or implied by a key with points; the three
differ in who may still add to them. A header may open a table that was only
implied by another header, a key with points may add only to tables that such
keys implied, and nothing is ever given twice.
-/

namespace InstancedZones.Toml

/-- A chain of names. -/
structure Key where
  /-- All names but the last. -/
  parents : List String
  /-- The last name. -/
  last : String
deriving DecidableEq, Repr

/-- The chain with a name put before it. -/
def Key.under (k : Key) (name : String) : Key := { k with parents := name :: k.parents }

/-- How a table came about. -/
inductive Origin
  /-- By a header of its own. -/
  | header
  /-- By the header of a table below it. -/
  | implied
  /-- By a key with points. -/
  | dotted
deriving DecidableEq, Repr

/-- What a name stands for while the lines are being put together. -/
inductive Node
  /-- A value. -/
  | leaf (value : Datum)
  /-- A table. -/
  | table (origin : Origin) (entries : List (String × Node))
  /-- A list of tables: those before, and the one that is open. -/
  | tables (before : List (List (String × Node))) (current : List (String × Node))

/-- Names and what they stand for. -/
abbrev Entries := List (String × Node)

/-- Gives a name a new meaning, at its place if it has one and else at the end. -/
def Entries.put (es : Entries) (name : String) (node : Node) : Entries :=
  match es with
  | [] => [(name, node)]
  | (n, old) :: rest => if n = name then (n, node) :: rest else (n, old) :: Entries.put rest name node

/-- Changes the entries that a chain of names leads to from here, implying the
tables that are missing. Of a list of tables, the open one is meant. -/
def openAt (change : Entries → Option Entries) : List String → Entries → Option Entries
  | [], es => change es
  | name :: path, es =>
    match es.lookup name with
    | none => (openAt change path []).map fun inner => es.put name (.table .implied inner)
    | some (.leaf _) => none
    | some (.table origin inner) =>
      (openAt change path inner).map fun inner => es.put name (.table origin inner)
    | some (.tables before current) =>
      (openAt change path current).map fun current => es.put name (.tables before current)

/-- Adds a value under a name that is free. -/
def addLeaf (name : String) (value : Datum) (es : Entries) : Option Entries :=
  match es.lookup name with
  | none => some (es.put name (.leaf value))
  | some _ => none

/-- Adds a value under a chain of names. Every table on the way must be implied;
the last one, if it is not where the chain starts, by a key with points. -/
def addPath (last : String) (value : Datum) : List String → Entries → Option Entries
  | [], es => addLeaf last value es
  | name :: path, es =>
    match es.lookup name with
    | none =>
      (addPath last value path []).map fun inner => es.put name (.table .dotted inner)
    | some (.leaf _) => none
    | some (.table origin inner) =>
      if origin = .header ∨ (path = [] ∧ origin ≠ .dotted) then none
      else (addPath last value path inner).map fun inner => es.put name (.table origin inner)
    | some (.tables before current) =>
      if path = [] then none
      else (addPath last value path current).map fun current => es.put name (.tables before current)

/-- Opens a table by its header. -/
def openTable (name : String) (es : Entries) : Option Entries :=
  match es.lookup name with
  | none => some (es.put name (.table .header []))
  | some (.table .implied inner) => some (es.put name (.table .header inner))
  | some _ => none

/-- Opens a further table of a list. -/
def openElement (name : String) (es : Entries) : Option Entries :=
  match es.lookup name with
  | none => some (es.put name (.tables [] []))
  | some (.tables before current) => some (es.put name (.tables (before ++ [current]) []))
  | some _ => none

mutual

/-- The data a name stands for in the end. -/
def Node.datum : Node → Datum
  | .leaf value => value
  | .table _ entries => .record (entriesData entries)
  | .tables before current => .list (tablesData before ++ [.record (entriesData current)])

/-- The data of some entries. -/
def entriesData : List (String × Node) → List (String × Datum)
  | [] => []
  | (name, node) :: rest => (name, node.datum) :: entriesData rest

/-- The data of some tables. -/
def tablesData : List (List (String × Node)) → List Datum
  | [] => []
  | entries :: rest => .record (entriesData entries) :: tablesData rest

end

/-- Adds a value under a key. -/
def addEntry (made : Entries) (entry : Key × Datum) : Option Entries :=
  addPath entry.1.last entry.2 entry.1.parents made

/-- The record that a table within a line makes. -/
def recordOfEntries (es : List (Key × Datum)) : Option (List (String × Datum)) :=
  (es.foldlM addEntry []).map entriesData

/-- A line of a document that says something. -/
inductive Line
  /-- A key and its value. -/
  | pair (key : Key) (value : Datum)
  /-- The header of a table. -/
  | header (key : Key)
  /-- The header of a further table of a list. -/
  | element (key : Key)

/-- Puts the lines together, each under the header it stands below. -/
def assemble : List Line → List String → Entries → Option Entries
  | [], _, made => some made
  | .pair k d :: rest, path, made => do
    assemble rest path (← openAt (addEntry · (k, d)) path made)
  | .header k :: rest, _, made => do
    assemble rest (k.parents ++ [k.last]) (← openAt (openTable k.last) k.parents made)
  | .element k :: rest, _, made => do
    assemble rest (k.parents ++ [k.last]) (← openAt (openElement k.last) k.parents made)

/-- The record that lines make. -/
def recordOfLines (lines : List Line) : Option Datum :=
  (assemble lines [] []).map fun made => .record (entriesData made)

end InstancedZones.Toml
