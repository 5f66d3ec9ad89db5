import InstancedZones.Proofs.WrittenValues
import InstancedZones.Toml.Library

/-!
# Reading the lines that are written

A document that is written is read back as its lines, `lines_writeLines`, if every name in
it can stand without quotes and every value can be read back. Line by line a reader has to
find where a name, a header or a value ends; nothing that is written runs on into what
comes after it. And since no carriage return is written, and nothing in front that looks
like a mark for the byte order, the whole text is what its lines say,
`ofChars?_writeLines`.

A library is not looked into. What is relied on is that it keeps to the format,
`Library.Documented`, both in what it writes and in what it can read.
-/

namespace InstancedZones.Toml

variable {c d : Char} {s after : List Char} {name : String} {path : List String} {fuel : Nat}

/-! ## Names -/

/-- Whether a name can stand without quotes. -/
def isBareName (name : String) : Bool := !name.toList.isEmpty && name.toList.all isBare

theorem isBareName_spec (h : isBareName name = true) :
    (∃ d rest, name.toList = d :: rest) ∧ ∀ c ∈ name.toList, isBare c = true := by
  obtain ⟨hne, hall⟩ := (Bool.and_eq_true _ _).mp h
  refine ⟨?_, List.all_eq_true.mp hall⟩
  cases hname : name.toList with
  | nil =>
    rw [hname] at hne
    cases hne
  | cons d rest => exact ⟨d, rest, rfl⟩

/-- A character of a name differs from all that cannot stand in one. -/
theorem ne_of_isBare (hd : isBare d = true) (hc : isBare c = false) : d ≠ c := by
  rintro rfl
  exact absurd (hd.symm.trans hc) (by decide)

theorem isBlank_of_isBare (hd : isBare d = true) : isBlank d = false := by
  rw [isBlank, beq_false_of_ne (ne_of_isBare hd (by decide)),
    beq_false_of_ne (ne_of_isBare hd (by decide))]
  rfl

/-- **A name without quotes is read up to the first character that cannot stand in one.** -/
theorem simpleKey_bare (h : isBareName name = true) (hc : isBare c = false) :
    simpleKey (name.toList ++ c :: after) = some (name, c :: after) := by
  obtain ⟨⟨d, rest, hname⟩, hbare⟩ := isBareName_spec h
  have hd : isBare d = true := hbare d (by rw [hname]; exact List.mem_cons_self)
  have hne : ∀ m t, isBare m = false → name.toList ++ c :: after ≠ m :: t := fun m t hm heq => by
    rw [hname] at heq
    exact ne_of_isBare hd hm (List.cons.inj heq).1
  have htake : (name.toList ++ c :: after).takeWhile isBare = name.toList := by
    rw [List.takeWhile_append_of_pos hbare, List.takeWhile_cons_of_neg (by simp [hc]),
      List.append_nil]
  have hdrop : (name.toList ++ c :: after).dropWhile isBare = c :: after := by
    rw [List.dropWhile_append_of_pos hbare, List.dropWhile_cons_of_neg (by simp [hc])]
  rw [simpleKey.eq_3 _ (fun t => hne _ t (by decide)) (fun t => hne _ t (by decide)), htake, hdrop]
  split
  · next heq =>
    rw [hname] at heq
    cases heq
  · rw [String.ofList_toList]

/-- The key that names joined by points make. -/
def keyOf : List String → Key
  | [] => ⟨[], ""⟩
  | [name] => ⟨[], name⟩
  | name :: rest => (keyOf rest).under name

/-- **Names joined by points are read back**, and the blanks after them are skipped. -/
theorem keyChain_joinNames (hpath : path ≠ []) (hbare : ∀ name ∈ path, isBareName name = true)
    (hfuel : path.length ≤ fuel) (hd : isBare d = false)
    (hskip : skipBlanks (d :: s) = c :: after) (hpoint : c ≠ '.') :
    keyChain fuel (joinNames path ++ d :: s) = some (keyOf path, c :: after) := by
  induction path generalizing fuel with
  | nil => exact absurd rfl hpath
  | cons name path ih =>
    obtain ⟨fuel, rfl⟩ := Nat.exists_eq_succ_of_ne_zero (Nat.ne_zero_of_lt hfuel)
    have hname := hbare name List.mem_cons_self
    obtain ⟨⟨e, rest, hchars⟩, hall⟩ := isBareName_spec hname
    have hblank : ∀ t, skipBlanks (name.toList ++ t) = name.toList ++ t := fun t => by
      rw [hchars, List.cons_append]
      have he : isBare e = true := hall e (by rw [hchars]; exact List.mem_cons_self)
      exact skipBlanks_cons (isBlank_of_isBare he) _
    cases path with
    | nil =>
      rw [joinNames, keyChain.eq_2, hblank, simpleKey_bare hname hd, Option.bind_eq_bind,
        Option.bind_some]
      dsimp only
      rw [hskip]
      split
      · next heq => exact absurd (List.cons.inj heq).1 hpoint
      · rfl
    | cons next path =>
      have hrest := ih (List.cons_ne_nil next path)
        (fun name hmem => hbare name (List.mem_cons_of_mem _ hmem)) (Nat.le_of_succ_le_succ hfuel)
      have hdot : skipBlanks ('.' :: (joinNames (next :: path) ++ d :: s))
          = '.' :: (joinNames (next :: path) ++ d :: s) := skipBlanks_cons (by decide) _
      rw [joinNames, List.append_assoc, List.cons_append, keyChain.eq_2, hblank,
        simpleKey_bare hname (by decide), Option.bind_eq_bind, Option.bind_some]
      · dsimp only
        rw [hdot]
        show (keyChain fuel (joinNames (next :: path) ++ d :: s)).bind
          (fun p => some (p.1.under name, p.2)) = _
        rw [hrest]
        rfl
      · exact List.cons_ne_nil next path

/-- Names joined by points begin with a character of a name, and there is no carriage
return in them. -/
theorem joinNames_spec (hpath : path ≠ []) (hbare : ∀ name ∈ path, isBareName name = true) :
    (∃ d rest, joinNames path = d :: rest ∧ isBare d = true) ∧ '\r' ∉ joinNames path := by
  induction path with
  | nil => exact absurd rfl hpath
  | cons name path ih =>
    obtain ⟨⟨d, rest, hname⟩, hall⟩ := isBareName_spec (hbare name List.mem_cons_self)
    have hd : isBare d = true := hall d (by rw [hname]; exact List.mem_cons_self)
    have hreturn : '\r' ∉ name.toList := fun hmem => absurd (hall _ hmem) (by decide)
    cases path with
    | nil => exact ⟨⟨d, rest, hname, hd⟩, hreturn⟩
    | cons next path =>
      obtain ⟨-, hrest⟩ := ih (List.cons_ne_nil next path) fun name hmem =>
        hbare name (List.mem_cons_of_mem _ hmem)
      refine ⟨⟨d, _, by rw [joinNames, hname]; rfl; exact List.cons_ne_nil next path, hd⟩, ?_⟩
      rw [joinNames]
      · exact List.not_mem_append hreturn (List.not_mem_cons_of_ne_of_not_mem (by decide) hrest)
      · exact List.cons_ne_nil next path

/-! ## Lines -/

/-- The line that is read where a line is written. -/
def OutLine.line : OutLine → Line
  | .pair name value => .pair (keyOf [name]) value.datum
  | .header path => .header (keyOf path)
  | .element path => .element (keyOf path)

/-- Whether names can be the names of a header. -/
def FitsHeader (path : List String) : Prop :=
  path ≠ [] ∧ path.length ≤ maxDepth ∧ ∀ name ∈ path, isBareName name = true

/-- A line that can be read back: its names can stand without quotes, and there are not too
many; and its value can be read back. -/
def OutLine.Fits : OutLine → Prop
  | .pair name value => isBareName name = true ∧ value.Fits
  | .header path => FitsHeader path
  | .element path => FitsHeader path

/-- A value begins with no blank, and there is no carriage return in it. -/
theorem Literal.chars_spec {l : Literal} (h : l.Fits) :
    (∃ d rest, l.chars = d :: rest ∧ isBlank d = false) ∧ '\r' ∉ l.chars := by
  cases l with
  | atom a =>
    obtain ⟨⟨d, rest, hchars, hd⟩, hreturn⟩ := Atom.chars_spec (a := a) h
    exact ⟨⟨d, rest, hchars, (startsAtom_spec hd).1⟩, hreturn⟩
  | list items =>
    have hlines : ∀ items : List Atom, (∀ item ∈ items, item.Fits) → '\r' ∉ itemLines items := by
      intro items h
      induction items with
      | nil => exact List.not_mem_nil
      | cons item items ih =>
        have hitem := (Atom.chars_spec (h item List.mem_cons_self)).2
        have hrest := ih fun item hmem => h item (List.mem_cons_of_mem _ hmem)
        simp [itemLines, hitem, hrest]
    cases items with
    | nil => exact ⟨⟨_, _, rfl, by decide⟩, by decide⟩
    | cons item items =>
      cases items with
      | nil =>
        have hitem := (Atom.chars_spec (h item List.mem_cons_self)).2
        exact ⟨⟨_, _, rfl, by decide⟩, by simp [Literal.chars, hitem]⟩
      | cons item' items =>
        exact ⟨⟨_, _, rfl, by decide⟩, by simp [Literal.chars, hlines _ h]⟩

/-- **A name and its value are read back.** -/
theorem pairLine_chars {value : Literal} (h : (OutLine.pair name value).Fits) :
    pairLine ((OutLine.pair name value).chars ++ after)
      = some ((OutLine.pair name value).line, after) := by
  obtain ⟨hname, hvalue⟩ := h
  obtain ⟨⟨d, rest, hchars, hblank⟩, -⟩ := Literal.chars_spec hvalue
  have hkey : keyChain maxDepth
      (joinNames [name] ++ ' ' :: '=' :: ' ' :: (value.chars ++ '\n' :: after))
      = some (keyOf [name], '=' :: ' ' :: (value.chars ++ '\n' :: after)) :=
    keyChain_joinNames (List.cons_ne_nil name []) (by simpa using hname)
      (show 1 ≤ maxDepth by decide) (by decide) rfl (by decide)
  have hshape : (OutLine.pair name value).chars ++ after
      = joinNames [name] ++ ' ' :: '=' :: ' ' :: (value.chars ++ '\n' :: after) := by
    simp [OutLine.chars, joinNames]
  have hskip : skipBlanks (' ' :: (value.chars ++ '\n' :: after))
      = value.chars ++ '\n' :: after := by
    rw [hchars, List.cons_append]
    exact skipBlanks_cons hblank _
  have hread : Toml.value maxDepth (value.chars ++ '\n' :: after)
      = some (value.datum, '\n' :: after) := value_literal hvalue (.inl rfl)
  rw [hshape, pairLine, key, hkey, Option.bind_eq_bind, Option.bind_some]
  dsimp only
  rw [show eat '=' ('=' :: ' ' :: (value.chars ++ '\n' :: after)) = some _ from rfl,
    Option.bind_eq_bind, Option.bind_some, hskip, hread, Option.bind_eq_bind, Option.bind_some]
  rfl

/-- **The names of a header are read back.** -/
theorem key_header (h : FitsHeader path) (after : List Char) :
    key (joinNames path ++ ']' :: after) = some (keyOf path, ']' :: after) :=
  keyChain_joinNames h.1 h.2.2 h.2.1 (by decide) rfl (by decide)

/-- A name and its value make one line. -/
theorem lines_pair {value : Literal} (h : (OutLine.pair name value).Fits) :
    lines (fuel + 1) ((OutLine.pair name value).chars ++ s)
      = (lines fuel s).map ((OutLine.pair name value).line :: ·) := by
  have hread : pairLine ((OutLine.pair name value).chars ++ s)
      = some ((OutLine.pair name value).line, s) := pairLine_chars h
  obtain ⟨⟨d, rest, hname⟩, hbare⟩ := isBareName_spec h.1
  have hd : isBare d = true := hbare d (by rw [hname]; exact List.mem_cons_self)
  have hne := fun m (hm : isBare m = false) => ne_of_isBare hd hm
  have hshape : ∃ t, (OutLine.pair name value).chars ++ s = d :: t := by
    rw [OutLine.chars, hname]
    exact ⟨_, rfl⟩
  obtain ⟨t, hshape⟩ := hshape
  rw [hshape] at hread ⊢
  rw [lines.eq_2, skipBlanks_cons (isBlank_of_isBare hd)]
  split
  · next heq => cases heq
  · next heq => exact absurd (List.cons.inj heq).1 (hne _ (by decide))
  · next heq => exact absurd (List.cons.inj heq).1 (hne _ (by decide))
  · next heq => exact absurd (List.cons.inj heq).1 (hne _ (by decide))
  · next heq => exact absurd (List.cons.inj heq).1 (hne _ (by decide))
  · rw [hread, Option.bind_eq_bind, Option.bind_some]
    show (lines fuel s).bind (fun rest => some (_ :: rest)) = _
    cases lines fuel s <;> rfl

/-- A header stands below an empty line. -/
theorem lines_header (h : FitsHeader path) :
    lines (fuel + 2) ((OutLine.header path).chars ++ s)
      = (lines fuel s).map ((OutLine.header path).line :: ·) := by
  have hshape : (OutLine.header path).chars ++ s
      = '\n' :: '[' :: (joinNames path ++ ']' :: '\n' :: s) := by
    simp [OutLine.chars]
  have hread : headerLine (joinNames path ++ ']' :: '\n' :: s)
      = some (.header (keyOf path), s) := by
    rw [headerLine, key_header h, Option.bind_eq_bind, Option.bind_some]
    rfl
  have hsingle : ∀ t, joinNames path ++ ']' :: '\n' :: s ≠ '[' :: t := by
    intro t heq
    obtain ⟨⟨d, rest, hjoin, hd⟩, -⟩ := joinNames_spec h.1 h.2.2
    rw [hjoin] at heq
    exact ne_of_isBare hd (by decide) (List.cons.inj heq).1
  have hblank : lines (fuel + 2) ((OutLine.header path).chars ++ s)
      = lines (fuel + 1) ('[' :: (joinNames path ++ ']' :: '\n' :: s)) := by
    rw [hshape]
    rfl
  rw [hblank, lines.eq_2, skipBlanks_cons (by decide)]
  split
  · next heq => cases heq
  · next heq => exact absurd (List.cons.inj heq).1 (by decide)
  · next heq => exact absurd (List.cons.inj heq).1 (by decide)
  · next heq => exact absurd (List.cons.inj heq).2 (hsingle _)
  · next heq =>
    obtain ⟨-, rfl⟩ := List.cons.inj heq
    rw [hread, Option.bind_eq_bind, Option.bind_some]
    show (lines fuel s).bind (fun rest => some (_ :: rest)) = _
    cases lines fuel s <;> rfl
  · next hnot => exact absurd rfl (hnot _)

/-- So does the header of a further table of a list. -/
theorem lines_element (h : FitsHeader path) :
    lines (fuel + 2) ((OutLine.element path).chars ++ s)
      = (lines fuel s).map ((OutLine.element path).line :: ·) := by
  have hshape : (OutLine.element path).chars ++ s
      = '\n' :: '[' :: '[' :: (joinNames path ++ ']' :: ']' :: '\n' :: s) := by
    simp [OutLine.chars]
  have hread : elementLine (joinNames path ++ ']' :: ']' :: '\n' :: s)
      = some (.element (keyOf path), s) := by
    rw [elementLine, key_header h, Option.bind_eq_bind, Option.bind_some]
    rfl
  have hlines : lines (fuel + 2) ((OutLine.element path).chars ++ s)
      = (elementLine (joinNames path ++ ']' :: ']' :: '\n' :: s)).bind fun p =>
          (lines fuel p.2).bind fun rest => some (p.1 :: rest) := by
    rw [hshape]
    rfl
  rw [hlines, hread, Option.bind_some]
  cases lines fuel s <;> rfl

/-! ## Documents -/

variable {ls : List OutLine}

/-- **The lines that are written are read back.** -/
theorem lines_writeLines (h : ∀ l ∈ ls, l.Fits) (hfuel : (writeLines ls).length < fuel) :
    lines fuel (writeLines ls) = some (ls.map OutLine.line) := by
  induction ls generalizing fuel with
  | nil =>
    obtain ⟨fuel, rfl⟩ := Nat.exists_eq_succ_of_ne_zero (Nat.ne_zero_of_lt hfuel)
    rfl
  | cons l ls ih =>
    have hl := h l List.mem_cons_self
    have hrest := fun {fuel} => @ih fuel fun l hmem => h l (List.mem_cons_of_mem _ hmem)
    have hsplit : writeLines (l :: ls) = l.chars ++ writeLines ls := List.flatMap_cons
    rw [hsplit, List.length_append] at hfuel
    rw [hsplit]
    cases l with
    | pair name value =>
      -- of the characters of a line, one is enough to pay for it
      have hchars : 1 ≤ (OutLine.pair name value).chars.length := by
        simp only [OutLine.chars, List.length_append, List.length_cons]
        omega
      obtain ⟨fuel, rfl⟩ := Nat.exists_eq_add_of_le (show 1 ≤ fuel by omega)
      rw [Nat.add_comm 1 fuel, lines_pair hl, hrest (by omega)]
      rfl
    | header path =>
      have hchars : 2 ≤ (OutLine.header path).chars.length := by simp [OutLine.chars]
      obtain ⟨fuel, rfl⟩ := Nat.exists_eq_add_of_le (show 2 ≤ fuel by omega)
      rw [Nat.add_comm 2 fuel, lines_header hl, hrest (by omega)]
      rfl
    | element path =>
      have hchars : 2 ≤ (OutLine.element path).chars.length := by simp [OutLine.chars]
      obtain ⟨fuel, rfl⟩ := Nat.exists_eq_add_of_le (show 2 ≤ fuel by omega)
      rw [Nat.add_comm 2 fuel, lines_element hl, hrest (by omega)]
      rfl

/-- Nothing is changed in a text without carriage returns. -/
theorem normalize_of_notMem (h : '\r' ∉ s) : normalize s = some s := by
  induction s with
  | nil => rfl
  | cons c s ih =>
    have hc : c ≠ '\r' := fun heq => h (heq ▸ List.mem_cons_self)
    rw [normalize.eq_2 c s fun _ heq => absurd heq hc, if_neg hc,
      ih fun hmem => h (List.mem_cons_of_mem c hmem)]
    rfl

/-- There is no carriage return in a line that is written. -/
theorem OutLine.return_notMem_chars {l : OutLine} (h : l.Fits) : '\r' ∉ l.chars := by
  cases l with
  | pair name value =>
    have hname : '\r' ∉ name.toList := fun hmem =>
      absurd ((isBareName_spec h.1).2 _ hmem) (by decide)
    simp [OutLine.chars, hname, (Literal.chars_spec h.2).2]
  | header path => simp [OutLine.chars, (joinNames_spec h.1 h.2.2).2]
  | element path => simp [OutLine.chars, (joinNames_spec h.1 h.2.2).2]

/-- A line that is written begins with a line end or a character of a name. -/
theorem OutLine.chars_cons {l : OutLine} (h : l.Fits) :
    ∃ d rest, l.chars = d :: rest ∧ (d = '\n' ∨ isBare d = true) := by
  cases l with
  | pair name value =>
    obtain ⟨⟨d, rest, hname⟩, hall⟩ := isBareName_spec h.1
    refine ⟨d, _, by rw [OutLine.chars, hname]; rfl, .inr (hall d ?_)⟩
    rw [hname]
    exact List.mem_cons_self
  | header path => exact ⟨_, _, rfl, .inl rfl⟩
  | element path => exact ⟨_, _, rfl, .inl rfl⟩

/-- **A document that is written says what its lines say.** -/
theorem ofChars?_writeLines (h : ∀ l ∈ ls, l.Fits) :
    ofChars? (writeLines ls) = recordOfLines (ls.map OutLine.line) := by
  have hreturn : '\r' ∉ writeLines ls := fun hmem => by
    obtain ⟨l, hl, hin⟩ := List.mem_flatMap.mp hmem
    exact OutLine.return_notMem_chars (h l hl) hin
  have hmark : dropByteOrderMark (writeLines ls) = writeLines ls := by
    cases ls with
    | nil => rfl
    | cons l ls =>
      obtain ⟨d, rest, hchars, hd⟩ := OutLine.chars_cons (h l List.mem_cons_self)
      have hsplit : writeLines (l :: ls) = d :: (rest ++ writeLines ls) := by
        rw [writeLines, List.flatMap_cons, hchars]
        rfl
      rw [hsplit, dropByteOrderMark.eq_2]
      intro t heq
      obtain ⟨rfl, -⟩ := List.cons.inj heq
      exact hd.elim (by decide) (by decide)
  rw [ofChars?, normalize_of_notMem hreturn, Option.bind_eq_bind, Option.bind_some]
  dsimp only
  rw [hmark, lines_writeLines h (Nat.lt_succ_self _)]
  rfl

/-! ## Libraries -/

/-- **A library that keeps to the format**: what has a layout is written as the lines of it,
where these can be read back; a whole number that does not fit 64 bits with a sign is
refused; and whatever text is a document is read as the data that it says. -/
structure Library.Documented (library : Library) : Prop where
  written {d : Datum} {ls : List OutLine} : layout? d = some ls → (∀ l ∈ ls, l.Fits) →
    library.write d = .ok (String.ofList (writeLines ls))
  refused {d : Datum} {ls : List OutLine} : layout? d = some ls → (∃ l ∈ ls, l.isLong = true) →
    ∃ reason, library.write d = .error reason
  read {text : String} {d : Datum} : ofChars? text.toList = some d → library.read text = some d

theorem Atom.Fits.isLong_eq_false {a : Atom} (h : a.Fits) : a.isLong = false := by
  cases a with
  | whole value => exact decide_eq_false (Nat.not_le_of_lt h)
  | _ => rfl

/-- No number is too large on a line that can be read back. -/
theorem OutLine.Fits.isLong_eq_false {l : OutLine} (h : l.Fits) : l.isLong = false := by
  cases l with
  | pair name value =>
    cases value with
    | atom a => exact Atom.Fits.isLong_eq_false (a := a) h.2
    | list items =>
      exact List.any_eq_false.mpr fun a hmem => by
        rw [Atom.Fits.isLong_eq_false (h.2 a hmem)]
        exact Bool.false_ne_true
  | header path => rfl
  | element path => rfl

theorem Library.standard_documented : standard.Documented where
  written {d ls} hlayout hfits := by
    have hshort : ls.any OutLine.isLong = false := List.any_eq_false.mpr fun l hmem => by
      rw [(hfits l hmem).isLong_eq_false]
      exact Bool.false_ne_true
    simp only [standard, hlayout, hshort, Bool.false_eq_true, if_false]
  refused {d ls} hlayout hlong := by
    have hlong : ls.any OutLine.isLong = true := List.any_eq_true.mpr hlong
    exact ⟨outOfRange, by simp only [standard, hlayout, hlong, if_true]⟩
  read hdata := hdata

end InstancedZones.Toml
