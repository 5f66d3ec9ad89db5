import InstancedZones.Toml.Table

/-!
# Putting a document together

A document that is written goes sheet by sheet: some names with values, then some tables
with names and values of their own. The first sheet is the record itself, and each further
one a table of one list. `recordOfLines_sheets` says what record such a document makes:
where no name is given twice, all that the sheets hold, in order.

While lines are put together, what has been made so far is seen from the header that the
line stands below. `IsHole path made` says that the entries at `path` are a hole in it: to
change what the path leads to is to change what is put into the hole. What a line does can
then be said at the hole, wherever that is.
-/

namespace InstancedZones.Toml

variable {name : String} {path parents : List String} {es : Entries} {node : Node}
  {made : Entries → Entries} {rest : List Line} {k : Key} {d : Datum}

/-! ## Entries -/

/-- A name that is free is not the first, and free among the others. -/
theorem lookup_cons_eq_none {n : String} (h : ((n, node) :: es).lookup name = none) :
    n ≠ name ∧ es.lookup name = none := by
  obtain ⟨hfirst, hrest⟩ := List.forall_mem_cons.mp (List.lookup_eq_none_iff.mp h)
  exact ⟨(bne_iff_ne.mp hfirst).symm, List.lookup_eq_none_iff.mpr hrest⟩

/-- A free name is put at the end. -/
theorem Entries.put_of_lookup_none (h : es.lookup name = none) (node : Node) :
    es.put name node = es ++ [(name, node)] := by
  induction es with
  | nil => rfl
  | cons e es ih =>
    obtain ⟨n, old⟩ := e
    obtain ⟨hne, hrest⟩ := lookup_cons_eq_none h
    rw [put, if_neg hne, ih hrest]
    rfl

/-- What stands at the end under a name is found there. -/
theorem Entries.lookup_append_single (h : es.lookup name = none) (node : Node) :
    (es ++ [(name, node)]).lookup name = some node := by
  rw [List.lookup_append, h, List.lookup_cons_self]
  rfl

/-- It is given a new meaning at its place. -/
theorem Entries.put_append_single (h : es.lookup name = none) (old node : Node) :
    Entries.put (es ++ [(name, old)]) name node = es ++ [(name, node)] := by
  induction es with
  | nil => exact if_pos rfl
  | cons e es ih =>
    obtain ⟨n, other⟩ := e
    obtain ⟨hne, hrest⟩ := lookup_cons_eq_none h
    rw [List.cons_append, put, if_neg hne, ih hrest]
    rfl

/-- A name that is not among those of a list of entries is free. -/
theorem lookup_eq_none_of_notMem {α : Type} {es : List (String × α)} (h : name ∉ es.map Prod.fst) :
    es.lookup name = none := by
  refine List.lookup_eq_none_iff.mpr fun e hmem => ?_
  exact bne_iff_ne.mpr fun heq => h (heq ▸ List.mem_map_of_mem hmem)

/-! ## Holes -/

/-- **The entries at a path are a hole**: to change what the path leads to is to change
what is put into the hole. -/
def IsHole (path : List String) (made : Entries → Entries) : Prop :=
  ∀ change es, openAt change path (made es) = (change es).map made

theorem isHole_nil : IsHole [] id := fun change es => by
  rw [openAt, Option.map_id]
  rfl

/-- A chain of names is followed name by name. -/
theorem openAt_append (change : Entries → Option Entries) (front back : List String)
    (es : Entries) : openAt change (front ++ back) es = openAt (openAt change back) front es := by
  induction front generalizing es with
  | nil => rfl
  | cons name front ih =>
    rw [List.cons_append, openAt, openAt]
    cases es.lookup name with
    | none => simp only [ih]
    | some node => cases node <;> simp only [ih]

/-- **A hole in a hole** is one at the longer path. -/
theorem IsHole.comp {inner : Entries → Entries} (h : IsHole parents made)
    (hinner : IsHole path inner) : IsHole (parents ++ path) (fun es => made (inner es)) :=
  fun change es => by
    rw [openAt_append, h, hinner, Option.map_map]
    rfl

/-- A table that stands at the end is a hole. -/
theorem isHole_table (h : es.lookup name = none) (origin : Origin) :
    IsHole [name] (fun inner => es ++ [(name, .table origin inner)]) := by
  intro change inner
  dsimp only
  rw [openAt, Entries.lookup_append_single h]
  simp only [openAt, Entries.put_append_single h]

/-- So is the open table of a list that stands at the end. -/
theorem isHole_tables (h : es.lookup name = none) (before : List Entries) :
    IsHole [name] (fun current => es ++ [(name, .tables before current)]) := by
  intro change current
  dsimp only
  rw [openAt, Entries.lookup_append_single h]
  simp only [openAt, Entries.put_append_single h]

/-! ## What a line does at a hole -/

/-- A name and its value are added at the end. -/
theorem assemble_pair (rest : List Line) (hhole : IsHole path made) (h : es.lookup name = none) :
    assemble (.pair ⟨[], name⟩ d :: rest) path (made es)
      = assemble rest path (made (es ++ [(name, .leaf d)])) := by
  have hadd : addEntry es (⟨[], name⟩, d) = some (es ++ [(name, .leaf d)]) := by
    rw [addEntry, addPath, addLeaf, h]
    exact congrArg some (Entries.put_of_lookup_none h _)
  rw [assemble, hhole, hadd]
  rfl

/-- A table is opened at the end. -/
theorem assemble_header (hhole : IsHole parents made) (h : es.lookup name = none) :
    assemble (.header ⟨parents, name⟩ :: rest) path (made es)
      = assemble rest (parents ++ [name]) (made (es ++ [(name, .table .header [])])) := by
  have hopen : openTable name es = some (es ++ [(name, .table .header [])]) := by
    rw [openTable, h]
    exact congrArg some (Entries.put_of_lookup_none h _)
  rw [assemble, hhole, hopen]
  rfl

/-- The first table of a list is opened at the end. -/
theorem assemble_element (h : es.lookup name = none) :
    assemble (.element ⟨[], name⟩ :: rest) path es
      = assemble rest [name] (es ++ [(name, .tables [] [])]) := by
  have hopen : openElement name es = some (es ++ [(name, .tables [] [])]) := by
    rw [openElement, h]
    exact congrArg some (Entries.put_of_lookup_none h _)
  rw [assemble, openAt, hopen]
  rfl

/-- A further one follows those before. -/
theorem assemble_next_element (h : es.lookup name = none) (before : List Entries)
    (current : Entries) :
    assemble (.element ⟨[], name⟩ :: rest) path (es ++ [(name, .tables before current)])
      = assemble rest [name] (es ++ [(name, .tables (before ++ [current]) [])]) := by
  have hopen : openElement name (es ++ [(name, .tables before current)])
      = some (es ++ [(name, .tables (before ++ [current]) [])]) := by
    rw [openElement, Entries.lookup_append_single h]
    exact congrArg some (Entries.put_append_single h _ _)
  rw [assemble, openAt, hopen]
  rfl

/-! ## Sheets -/

/-- Names and their values. -/
abbrev Pairs := List (String × Datum)

/-- The names of some entries. -/
def names {α : Type} (es : List (String × α)) : List String := es.map Prod.fst

/-- Some names with values, and below them some tables of such. -/
structure Sheet where
  /-- The names and values on top. -/
  pairs : Pairs
  /-- The tables, by name. -/
  tables : List (String × Pairs)

/-- The lines of names and values. -/
def pairLines (ps : Pairs) : List Line := ps.map fun p => .pair ⟨[], p.1⟩ p.2

/-- The lines of a table below a chain of names. -/
def tableLines (parents : List String) (t : String × Pairs) : List Line :=
  .header ⟨parents, t.1⟩ :: pairLines t.2

namespace Sheet

/-- The lines of a sheet that stands below a chain of names. -/
def lines (parents : List String) (s : Sheet) : List Line :=
  pairLines s.pairs ++ s.tables.flatMap (tableLines parents)

/-- The record that a sheet stands for. -/
def record (s : Sheet) : List (String × Datum) :=
  s.pairs ++ s.tables.map fun t => (t.1, .record t.2)

/-- No name is given twice, neither on the sheet nor in one of its tables. -/
structure Distinct (s : Sheet) : Prop where
  top : (names s.pairs ++ names s.tables).Nodup
  below : ∀ t ∈ s.tables, (names t.2).Nodup

end Sheet

/-- What the names and values of a table make. -/
def leaves (ps : Pairs) : Entries := ps.map fun p => (p.1, .leaf p.2)

/-- What the tables of a sheet make. -/
def branches (ts : List (String × Pairs)) : Entries :=
  ts.map fun t => (t.1, .table .header (leaves t.2))

/-- What a sheet makes. -/
def Sheet.entries (s : Sheet) : Entries := leaves s.pairs ++ branches s.tables

variable {ps : Pairs} {ts : List (String × Pairs)} {s : Sheet}

theorem names_append {α : Type} (xs ys : List (String × α)) :
    names (xs ++ ys) = names xs ++ names ys := List.map_append

theorem names_leaves (ps : Pairs) : names (leaves ps) = names ps := List.map_map

theorem names_branches (ts : List (String × Pairs)) : names (branches ts) = names ts :=
  List.map_map

/-- **Names and values** are added at the end, one after the other. -/
theorem assemble_pairLines (es : Entries) (hhole : IsHole path made)
    (h : (names es ++ names ps).Nodup) :
    assemble (pairLines ps ++ rest) path (made es)
      = assemble rest path (made (es ++ leaves ps)) := by
  induction ps generalizing es with
  | nil =>
    rw [leaves, List.map_nil, List.append_nil]
    rfl
  | cons p ps ih =>
    obtain ⟨name, d⟩ := p
    have hfree : es.lookup name = none := lookup_eq_none_of_notMem fun hmem =>
      (List.nodup_append.mp h).2.2 _ hmem _ List.mem_cons_self rfl
    have hrest : (names (es ++ [(name, .leaf d)]) ++ names ps).Nodup := by
      rw [names_append, List.append_assoc]
      exact h
    have hstep := assemble_pair (d := d) (pairLines ps ++ rest) hhole hfree
    rw [ih _ hrest, List.append_assoc] at hstep
    exact hstep

/-- **A table** is added at the end with all that is in it. -/
theorem assemble_tableLines (hhole : IsHole parents made) (hfree : es.lookup name = none)
    (h : (names ps).Nodup) :
    assemble (tableLines parents (name, ps) ++ rest) path (made es)
      = assemble rest (parents ++ [name]) (made (es ++ [(name, .table .header (leaves ps))])) := by
  have hinner := hhole.comp (isHole_table hfree .header)
  have hpairs : assemble (pairLines ps ++ rest) (parents ++ [name])
      (made (es ++ [(name, .table .header [])])) = _ := assemble_pairLines [] hinner h
  rw [List.nil_append] at hpairs
  rw [← hpairs]
  exact assemble_header hhole hfree

/-- **The tables of a sheet** are added one after the other. -/
theorem assemble_tables (rest : List Line) (hhole : IsHole parents made)
    (h : (names es ++ names ts).Nodup)
    (hbelow : ∀ t ∈ ts, (names t.2).Nodup) (path : List String) :
    ∃ path', assemble (ts.flatMap (tableLines parents) ++ rest) path (made es)
      = assemble rest path' (made (es ++ branches ts)) := by
  induction ts generalizing es path with
  | nil => exact ⟨path, by rw [branches, List.map_nil, List.append_nil]; rfl⟩
  | cons t ts ih =>
    obtain ⟨name, ps⟩ := t
    have hfree : es.lookup name = none := lookup_eq_none_of_notMem fun hmem =>
      (List.nodup_append.mp h).2.2 _ hmem _ List.mem_cons_self rfl
    have hrest : (names (es ++ [(name, .table .header (leaves ps))]) ++ names ts).Nodup := by
      rw [names_append, List.append_assoc]
      exact h
    obtain ⟨path', hpath'⟩ := ih hrest (fun t hmem => hbelow t (List.mem_cons_of_mem _ hmem))
      (parents ++ [name])
    refine ⟨path', ?_⟩
    rw [List.flatMap_cons, List.append_assoc,
      assemble_tableLines hhole hfree (hbelow _ List.mem_cons_self), hpath', List.append_assoc]
    rfl

/-- **A sheet** fills the hole that it stands below. -/
theorem assemble_sheet (rest : List Line) (hhole : IsHole parents made) (h : s.Distinct) :
    ∃ path', assemble (s.lines parents ++ rest) parents (made [])
      = assemble rest path' (made s.entries) := by
  have htables : (names (leaves s.pairs) ++ names s.tables).Nodup := by
    rw [names_leaves]
    exact h.top
  obtain ⟨path', hpath'⟩ := assemble_tables rest hhole htables h.below parents
  refine ⟨path', ?_⟩
  rw [Sheet.lines, List.append_assoc,
    assemble_pairLines [] hhole (List.nodup_append.mp h.top).1,
    List.nil_append, hpath']
  rfl

/-! ## Documents of sheets -/

/-- The lines of a sheet that is a further table of a list. -/
def elementLines (name : String) (s : Sheet) : List Line :=
  .element ⟨[], name⟩ :: s.lines [name]

variable {sheets : List Sheet}

/-- **Further tables of a list** follow those before. -/
theorem assemble_elementLines (hfree : es.lookup name = none) (h : ∀ s ∈ sheets, s.Distinct)
    (path : List String) (before : List Entries) (current : Entries) :
    ∃ before' current', before' ++ [current'] = before ++ current :: sheets.map Sheet.entries ∧
      assemble (sheets.flatMap (elementLines name)) path (es ++ [(name, .tables before current)])
        = some (es ++ [(name, .tables before' current')]) := by
  induction sheets generalizing path before current with
  | nil => exact ⟨before, current, rfl, rfl⟩
  | cons s sheets ih =>
    obtain ⟨path', hsheet⟩ := assemble_sheet (sheets.flatMap (elementLines name))
      (isHole_tables hfree (before ++ [current])) (h s List.mem_cons_self)
    obtain ⟨before', current', hall, hrest⟩ := ih (fun s hmem => h s (List.mem_cons_of_mem _ hmem))
      path' (before ++ [current]) s.entries
    refine ⟨before', current', by rw [hall, List.append_assoc]; rfl, ?_⟩
    rw [List.flatMap_cons, elementLines, List.cons_append, assemble_next_element hfree]
    exact hsheet.trans hrest

/-- **What a document of sheets makes**: all of the first sheet, and a list of the others
if there are any. -/
theorem assemble_sheets {first : Sheet} (hfirst : first.Distinct)
    (hsheets : ∀ s ∈ sheets, s.Distinct)
    (hname : sheets ≠ [] → name ∉ names first.entries) :
    (sheets = [] ∧ assemble (first.lines [] ++ sheets.flatMap (elementLines name)) [] []
        = some first.entries) ∨
      ∃ before current, before ++ [current] = sheets.map Sheet.entries ∧
        assemble (first.lines [] ++ sheets.flatMap (elementLines name)) [] []
          = some (first.entries ++ [(name, .tables before current)]) := by
  obtain ⟨path, htop⟩ := assemble_sheet (sheets.flatMap (elementLines name)) isHole_nil hfirst
  cases sheets with
  | nil => exact .inl ⟨rfl, htop⟩
  | cons s sheets =>
    have hfree := lookup_eq_none_of_notMem (hname (List.cons_ne_nil s sheets))
    obtain ⟨path', hsheet⟩ := assemble_sheet (sheets.flatMap (elementLines name))
      (isHole_tables hfree []) (hsheets s List.mem_cons_self)
    obtain ⟨before, current, hall, hrest⟩ := assemble_elementLines hfree
      (fun s hmem => hsheets s (List.mem_cons_of_mem _ hmem)) path' [] s.entries
    refine .inr ⟨before, current, hall, htop.trans ?_⟩
    rw [List.flatMap_cons, elementLines, List.cons_append]
    exact (assemble_element hfree).trans (hsheet.trans hrest)

/-! ## The data of sheets -/

theorem entriesData_eq_map (es : Entries) : entriesData es = es.map fun e => (e.1, e.2.datum) := by
  induction es with
  | nil => rfl
  | cons e es ih => rw [entriesData, ih, List.map_cons]

theorem tablesData_eq_map (ts : List Entries) :
    tablesData ts = ts.map fun es => .record (entriesData es) := by
  induction ts with
  | nil => rfl
  | cons es ts ih => rw [tablesData, ih, List.map_cons]

theorem entriesData_leaves (ps : Pairs) : entriesData (leaves ps) = ps := by
  rw [entriesData_eq_map, leaves, List.map_map]
  exact List.map_id ps

/-- What a sheet makes is the record that it stands for. -/
theorem Sheet.entriesData_entries (s : Sheet) : entriesData s.entries = s.record := by
  have hbranches : entriesData (branches s.tables) = s.tables.map fun t => (t.1, .record t.2) := by
    rw [entriesData_eq_map, branches, List.map_map]
    refine List.map_congr_left fun t _ => ?_
    show (t.1, Node.datum (.table .header (leaves t.2))) = _
    rw [Node.datum, entriesData_leaves]
  rw [entries, entriesData_eq_map, List.map_append, ← entriesData_eq_map, ← entriesData_eq_map,
    entriesData_leaves, hbranches]
  rfl

/-- **What a document of sheets says**, if no name is given twice. -/
theorem recordOfLines_sheets {first : Sheet} (hfirst : first.Distinct)
    (hsheets : ∀ s ∈ sheets, s.Distinct) (hname : sheets ≠ [] → name ∉ names first.entries) :
    recordOfLines (first.lines [] ++ sheets.flatMap (elementLines name))
      = some (.record (first.record ++
          if sheets = [] then [] else [(name, .list (sheets.map fun s => .record s.record))])) := by
  rw [recordOfLines]
  obtain ⟨rfl, hmade⟩ | ⟨before, current, hall, hmade⟩ := assemble_sheets hfirst hsheets hname
  · rw [hmade, Option.map_some, first.entriesData_entries, if_pos rfl, List.append_nil]
  · have hne : sheets ≠ [] := by
      rintro rfl
      exact List.append_ne_nil_of_right_ne_nil before (List.cons_ne_nil current []) hall
    have hlist : Node.datum (.tables before current)
        = .list (sheets.map fun s => .record s.record) := by
      have hdata := congrArg (List.map fun es => Datum.record (entriesData es)) hall
      rw [List.map_append, ← tablesData_eq_map, List.map_map] at hdata
      rw [Node.datum]
      refine congrArg Datum.list (hdata.trans (List.map_congr_left fun s _ => ?_))
      exact congrArg Datum.record s.entriesData_entries
    rw [hmade, Option.map_some, entriesData_eq_map, List.map_append, ← entriesData_eq_map,
      first.entriesData_entries, if_neg hne, List.map_cons, List.map_nil, hlist]

end InstancedZones.Toml
