import InstancedZones.Proofs.Numerals
import InstancedZones.Proofs.QuotedText
import InstancedZones.Toml.Value

/-!
# Reading the values that are written

A value that is written is read back as the piece of data it stands for, if its numbers
fit, `value_literal`. A single value shows what it is by its first character; a list is
written in one of three ways, with nothing in it, with one item between the brackets, or
with each item on a line of its own and a comma after it.
-/

namespace InstancedZones.Toml

variable {c d m : Char} {s t after : List Char} {fuel depth : Nat}

/-! ## The data that is written -/

/-- The piece of data that a single value stands for. -/
def Atom.datum : Atom → Datum
  | .text value => .text value
  | .whole value => .whole value
  | .truth value => .truth value
  | .real value => .real value

/-- The piece of data that a value stands for. -/
def Literal.datum : Literal → Datum
  | .atom value => value.datum
  | .list items => .list (items.map Atom.datum)

/-- A single value that can be read back: a whole number fits 64 bits with a sign, and any
other number is finite. -/
def Atom.Fits : Atom → Prop
  | .whole value => value < 9223372036854775808
  | .real value => ∃ negative pattern, pattern < Format.double.infinity ∧
      value = .ofPattern negative pattern
  | _ => True

/-- A value that can be read back. -/
def Literal.Fits : Literal → Prop
  | .atom value => value.Fits
  | .list items => ∀ item ∈ items, item.Fits

/-! ## First characters -/

/-- Whether a single value can begin with a character. -/
def startsAtom (d : Char) : Bool :=
  isDigit d || d == '-' || d == '"' || d == '\'' || d == 't' || d == 'f'

theorem ne_of_startsAtom (h : startsAtom d = true) (hm : startsAtom m = false) : d ≠ m := by
  rintro rfl
  exact absurd (h.symm.trans hm) (by decide)

/-- What begins a single value is not skipped, and opens or closes no list and no table. -/
theorem startsAtom_spec (h : startsAtom d = true) :
    isBlank d = false ∧ d ≠ '\n' ∧ d ≠ '#' ∧ d ≠ '[' ∧ d ≠ '\x7b' ∧ d ≠ ']' := by
  have hne := fun m (hm : startsAtom m = false) => ne_of_startsAtom h hm
  refine ⟨?_, hne _ (by decide), hne _ (by decide), hne _ (by decide), hne _ (by decide),
    hne _ (by decide)⟩
  rw [isBlank, beq_false_of_ne (hne ' ' (by decide)), beq_false_of_ne (hne '\t' (by decide))]
  rfl

/-- **A single value begins as one**, and there is no carriage return in it. -/
theorem Atom.chars_spec {a : Atom} (h : a.Fits) :
    (∃ d rest, a.chars = d :: rest ∧ startsAtom d = true) ∧ '\r' ∉ a.chars := by
  have hnumeral : ∀ {s}, IsNumeral s →
      (∃ d rest, s = d :: rest ∧ startsAtom d = true) ∧ '\r' ∉ s := by
    rintro _ ⟨d, rest, rfl, hd, hrest⟩
    have hreturn : '\r' ∉ rest := fun hmem => (hrest _ hmem).elim (by decide) (by decide)
    obtain hdigit | rfl := hd
    · have hstarts : startsAtom d = true := by simp [startsAtom, hdigit]
      exact ⟨⟨d, rest, rfl, hstarts⟩,
        List.not_mem_cons_of_ne_of_not_mem (ne_of_startsAtom hstarts (by decide)).symm hreturn⟩
    · exact ⟨⟨_, rest, rfl, rfl⟩, List.not_mem_cons_of_ne_of_not_mem (by decide) hreturn⟩
  cases a with
  | text value =>
    obtain ⟨⟨rest, hquote | hquote⟩, hreturn⟩ := writeQuoted_spec value.toList
    · exact ⟨⟨_, rest, hquote, rfl⟩, hreturn⟩
    · exact ⟨⟨_, rest, hquote, rfl⟩, hreturn⟩
  | whole value => exact hnumeral (isNumeral_toDigits value)
  | truth value => cases value <;> exact ⟨⟨_, _, rfl, rfl⟩, by decide⟩
  | real value =>
    obtain ⟨negative, pattern, hfinite, rfl⟩ := h
    exact hnumeral (isNumeral_plain hfinite negative)

/-! ## Single values -/

/-- No quotation mark stands right after a value. -/
theorem IsDelimiter.not_quote (h : IsDelimiter c) : c ≠ '"' ∧ c ≠ '\'' := by
  obtain rfl | rfl | rfl := h <;> decide

/-- What begins with a digit or a minus is read as a number or a moment. -/
theorem scalar_numeral (h : IsNumeral s) (after : List Char) :
    scalar (s ++ after) = numberOrMoment (s ++ after) := by
  obtain ⟨d, rest, rfl, hd, -⟩ := h
  have hne : ∀ m, isDigit m = false → m ≠ '-' → d ≠ m := by
    rintro m hdigit hminus rfl
    exact hd.elim (fun hd => absurd (hd.symm.trans hdigit) (by decide)) hminus
  have hnumber : (isDigit d || decide (d = '+') || decide (d = '-')) = true := by
    obtain hd | rfl := hd
    · rw [hd]
      rfl
    · rfl
  rw [List.cons_append, scalar.eq_7 d _ (hne _ (by decide) (by decide))
    (hne _ (by decide) (by decide)) (fun _ h => absurd h (hne _ (by decide) (by decide)))
    (fun _ h => absurd h (hne _ (by decide) (by decide)))
    (fun _ h => absurd h (hne _ (by decide) (by decide)))
    (fun _ h => absurd h (hne _ (by decide) (by decide))), if_pos hnumber]

/-- **A single value that is written is read back.** -/
theorem scalar_chars {a : Atom} (h : a.Fits) (hc : IsDelimiter c) :
    scalar (a.chars ++ c :: after) = some (a.datum, c :: after) := by
  cases a with
  | text value =>
    have hquoted : readQuoted (writeQuoted value.toList ++ c :: after)
        = some (value.toList, c :: after) :=
      readQuoted_writeQuoted value.toList hc.not_quote.1 hc.not_quote.2
    have hscalar : scalar (writeQuoted value.toList ++ c :: after)
        = (readQuoted (writeQuoted value.toList ++ c :: after)).map
            fun r => (.text (String.ofList r.1), r.2) := by
      obtain ⟨⟨rest, hquote | hquote⟩, -⟩ := writeQuoted_spec value.toList <;>
      · rw [hquote]
        rfl
    rw [Atom.chars, hscalar, hquoted, Option.map_some]
    dsimp only
    rw [String.ofList_toList]
    rfl
  | whole value =>
    rw [Atom.chars, scalar_numeral (isNumeral_toDigits value), numberOrMoment_whole h hc]
    rfl
  | truth value => cases value <;> rfl
  | real value =>
    obtain ⟨negative, pattern, hfinite, rfl⟩ := h
    rw [Atom.chars, scalar_numeral (isNumeral_plain hfinite negative),
      numberOrMoment_plain hfinite negative hc]
    rfl

/-- A single value is read so at any depth. -/
theorem value_atom {a : Atom} (h : a.Fits) (hc : IsDelimiter c) :
    value depth (a.chars ++ c :: after) = some (a.datum, c :: after) := by
  cases depth with
  | zero => rw [value.eq_1, scalar_chars h hc]
  | succ depth =>
    obtain ⟨⟨d, rest, hchars, hd⟩, -⟩ := Atom.chars_spec h
    obtain ⟨-, -, -, hlist, htable, -⟩ := startsAtom_spec hd
    rw [value.eq_4, scalar_chars h hc]
    · rw [hchars]
      exact fun s heq => hlist (List.cons.inj heq).1
    · rw [hchars]
      exact fun s heq => htable (List.cons.inj heq).1

/-! ## Lists -/

theorem skipBlanks_cons (h : isBlank d = false) (s : List Char) :
    skipBlanks (d :: s) = d :: s :=
  List.dropWhile_cons_of_neg (by simp [h])

/-- Blanks are skipped, but nothing before what is no blank, no line end and no comment. -/
theorem skipLines_of_skipBlanks (h : skipBlanks s = d :: t) (hline : d ≠ '\n')
    (hcomment : d ≠ '#') : skipLines (fuel + 1) s = some (d :: t) := by
  rw [skipLines.eq_2, h]
  split
  · next heq => exact absurd (List.cons.inj heq).1 hline
  · next heq => exact absurd (List.cons.inj heq).1 hcomment
  · rfl

section Items

variable {item : List Char → Option (Datum × List Char)} {x : Datum}

/-- The closing bracket comes. -/
theorem listItems_close (h : skipLines (s.length + 1) s = some (']' :: t)) :
    listItems item (fuel + 1) s = some ([], t) := by
  rw [listItems.eq_2, h]
  rfl

/-- An item comes, and what stands behind it decides whether there are more. -/
theorem listItems_item (h : skipLines (s.length + 1) s = some (d :: t)) (hd : d ≠ ']')
    (hitem : item (d :: t) = some (x, c :: after)) (hc : c = ',' ∨ c = ']') :
    listItems item (fuel + 1) s
      = if c = ',' then (listItems item fuel after).map fun (xs, s) => (x :: xs, s)
        else some ([x], after) := by
  have hskip : skipLines ((c :: after).length + 1) (c :: after) = some (c :: after) := by
    obtain rfl | rfl := hc <;> rfl
  rw [listItems.eq_2, h, Option.bind_eq_bind, Option.bind_some]
  split
  · next heq => exact absurd (List.cons.inj heq).1 hd
  · rw [hitem, Option.bind_eq_bind, Option.bind_some]
    dsimp only
    rw [hskip, Option.bind_eq_bind, Option.bind_some]
    obtain rfl | rfl := hc
    · rw [if_pos rfl]
      show (listItems item fuel after).bind (fun p => some (x :: p.1, p.2)) = _
      cases listItems item fuel after <;> rfl
    · rfl

end Items

/-- Every item takes a line of its own. -/
theorem length_le_itemLines (items : List Atom) : items.length ≤ (itemLines items).length := by
  induction items with
  | nil => exact Nat.le_refl 0
  | cons item items ih =>
    simp only [itemLines, List.length_append, List.length_cons]
    omega

/-- **The items of a long list are read back**, each from its own line. -/
theorem listItems_itemLines {items : List Atom} (h : ∀ item ∈ items, item.Fits)
    (hfuel : items.length < fuel) :
    listItems (value depth) fuel ('\n' :: (itemLines items ++ ']' :: after))
      = some (items.map Atom.datum, after) := by
  induction items generalizing fuel with
  | nil =>
    obtain ⟨fuel, rfl⟩ := Nat.exists_eq_succ_of_ne_zero (Nat.ne_of_gt hfuel)
    exact listItems_close rfl
  | cons item items ih =>
    obtain ⟨fuel, rfl⟩ := Nat.exists_eq_succ_of_ne_zero (Nat.ne_zero_of_lt hfuel)
    have hitem := h item List.mem_cons_self
    obtain ⟨⟨d, rest, hchars, hd⟩, -⟩ := Atom.chars_spec hitem
    obtain ⟨hblank, hline, hcomment, -, -, hclose⟩ := startsAtom_spec hd
    have hshape : itemLines (item :: items) ++ ']' :: after
        = ' ' :: ' ' :: ' ' :: ' ' ::
            (item.chars ++ ',' :: '\n' :: (itemLines items ++ ']' :: after)) := by
      simp [itemLines]
    have hread : value depth (item.chars ++ ',' :: '\n' :: (itemLines items ++ ']' :: after)) =
        some (item.datum, _) := value_atom hitem (.inr (.inl rfl))
    rw [hshape]
    rw [hchars, List.cons_append] at hread ⊢
    have hskip : ∀ t, skipLines (('\n' :: ' ' :: ' ' :: ' ' :: ' ' :: d :: t).length + 1)
        ('\n' :: ' ' :: ' ' :: ' ' :: ' ' :: d :: t) = some (d :: t) := fun t =>
      skipLines_of_skipBlanks (s := ' ' :: ' ' :: ' ' :: ' ' :: d :: t)
        (skipBlanks_cons hblank t) hline hcomment
    have hrest : listItems (value depth) fuel ('\n' :: (itemLines items ++ ']' :: after))
        = some (items.map Atom.datum, after) :=
      ih (fun item hmem => h item (List.mem_cons_of_mem _ hmem)) (Nat.lt_of_succ_lt_succ hfuel)
    rw [listItems_item (hskip _) hclose hread (.inl rfl), if_pos rfl, hrest]
    rfl

/-- **A value that is written is read back.** -/
theorem value_literal {l : Literal} (h : l.Fits) (hc : IsDelimiter c) :
    value (depth + 1) (l.chars ++ c :: after) = some (l.datum, c :: after) := by
  cases l with
  | atom a => exact value_atom h hc
  | list items =>
    match items, h with
    | [], _ =>
      rw [Literal.chars, List.cons_append, List.singleton_append, value.eq_2,
        listItems_close rfl]
      rfl
    | [item], h =>
      have hitem := h item List.mem_cons_self
      obtain ⟨⟨d, rest, hchars, hd⟩, -⟩ := Atom.chars_spec hitem
      obtain ⟨hblank, hline, hcomment, -, -, hclose⟩ := startsAtom_spec hd
      have hread : value depth (item.chars ++ ']' :: c :: after) = some (item.datum, _) :=
        value_atom hitem (.inr (.inr rfl))
      rw [Literal.chars, List.append_assoc, List.cons_append, List.singleton_append, value.eq_2]
      rw [hchars, List.cons_append] at hread ⊢
      rw [listItems_item (skipLines_of_skipBlanks (skipBlanks_cons hblank _) hline hcomment) hclose
        hread (.inr rfl), if_neg (by decide)]
      rfl
    | item :: item' :: items, h =>
      have hshape : (Literal.list (item :: item' :: items)).chars ++ c :: after
          = '[' :: '\n' :: (itemLines (item :: item' :: items) ++ ']' :: c :: after) := by
        simp [Literal.chars]
      rw [hshape, value.eq_2, listItems_itemLines h]
      · rfl
      · simp only [List.length_cons, List.length_append]
        have := length_le_itemLines (item :: item' :: items)
        simp only [List.length_cons] at this
        omega

end InstancedZones.Toml
