import InstancedZones.Proofs.Decimals
import InstancedZones.Toml.Number
import InstancedZones.Toml.Writer

/-!
# Reading the numbers that are written

A whole number is written in its digits, and a number of 64 bits as the shortest decimal
that reads back, with its point in place. Both are read back as the number they were,
`numberOrMoment_whole` and `numberOrMoment_plain`, by a reader that also has to tell them
from dates, times of day and numbers in other bases. What comes after a number matters to
it, so something must: a line end, a comma or a closing bracket.
-/

namespace InstancedZones.Toml

/-- A character that stands right after a value. -/
def IsDelimiter (c : Char) : Prop := c = '\n' ∨ c = ',' ∨ c = ']'

variable {c d : Char} {ds fraction after : List Char} {n : Nat} {negative : Bool}

/-! ## Digits -/

/-- A digit as it is printed is one as it is read. -/
theorem isDigit_of_isDigit (h : c.isDigit = true) : isDigit c = true := h

/-- What a digit is worth. -/
theorem hexValue?_of_isDigit (h : isDigit c = true) :
    Text.hexValue? c = some (c.toNat - '0'.toNat) := by
  have hrange : '0' ≤ c ∧ c ≤ '9' := by simpa [isDigit] using h
  unfold Text.hexValue?
  rw [if_pos hrange]

/-- The value that is read is the one of the digits. -/
theorem valueOf_eq_ofDigitChars (h : ∀ c ∈ ds, isDigit c = true) :
    valueOf 10 ds = Nat.ofDigitChars 10 ds 0 := by
  have hfold : ∀ n, ds.foldl (fun n c => n * 10 + (Text.hexValue? c).getD 0) n
      = Nat.ofDigitChars 10 ds n := by
    induction ds with
    | nil => exact fun n => rfl
    | cons c ds ih =>
      intro n
      rw [List.foldl_cons, ih fun d hd => h d (List.mem_cons_of_mem c hd),
        hexValue?_of_isDigit (h c List.mem_cons_self), Option.getD_some, Nat.ofDigitChars_cons,
        Nat.mul_comm]
  exact hfold 0

/-- Only zero is written with a zero in front. -/
theorem toDigits_zero_cons (h : Nat.toDigits 10 n = '0' :: ds) : ds = [] := by
  induction n using Nat.strongRecOn generalizing ds with
  | ind n ih =>
    rw [Nat.toDigits_eq_if (by decide)] at h
    split at h
    · exact (List.cons.inj h).2.symm
    · next hlarge =>
      -- the digits before the last one are those of a smaller number, which is not zero
      cases hfront : Nat.toDigits 10 (n / 10) with
      | nil => exact absurd hfront Nat.toDigits_ne_nil
      | cons c front =>
        rw [hfront, List.cons_append] at h
        obtain ⟨rfl, -⟩ := List.cons.inj h
        have hvalue := Nat.ofDigitChars_toDigits (b := 10) (n := n / 10) (by decide) (by decide)
        rw [hfront, ih (n / 10) (by omega) hfront] at hvalue
        exact absurd hvalue (by simp [Nat.ofDigitChars]; omega)

/-- A run of digits is read up to the first character that is none. -/
theorem digits_append (hds : ∀ c ∈ ds, isDigit c = true) (hne : ds ≠ [])
    (hc : isDigit c = false) (hline : c ≠ '_') :
    digits isDigit (ds ++ c :: after) = some (ds, c :: after) := by
  have hmore : ∀ ds : List Char, (∀ d ∈ ds, isDigit d = true) →
      moreDigits isDigit (ds ++ c :: after) = some (ds, c :: after) := by
    intro ds hds
    induction ds with
    | nil =>
      rw [List.nil_append, moreDigits.eq_3 _ _ _ (by simp [hline]) (by simp [hline]), hc]
      rfl
    | cons d ds ih =>
      have hd := hds d List.mem_cons_self
      have hnot : d ≠ '_' := by rintro rfl; exact absurd hd (by decide)
      rw [List.cons_append, moreDigits.eq_3 _ _ _ (by simp [hnot]) (by simp [hnot]), hd,
        ih fun e he => hds e (List.mem_cons_of_mem d he)]
      rfl
  cases ds with
  | nil => exact absurd rfl hne
  | cons d ds =>
    rw [List.cons_append, digits, hds d List.mem_cons_self,
      hmore ds fun e he => hds e (List.mem_cons_of_mem d he)]
    rfl

/-- The digits before a point or the end are read whole, unless a zero stands in front. -/
theorem leadingDigits_append (hds : ∀ c ∈ ds, isDigit c = true) (hne : ds ≠ [])
    (hzero : ds.head? = some '0' → ds = ['0']) (hc : isDigit c = false) (hline : c ≠ '_') :
    leadingDigits (ds ++ c :: after) = some (ds, c :: after) := by
  cases ds with
  | nil => exact absurd rfl hne
  | cons d ds =>
    by_cases hd : d = '0'
    · subst hd
      rw [hzero rfl]
      rfl
    · have hread : digits isDigit (d :: ds ++ c :: after) = some (d :: ds, c :: after) :=
        digits_append hds hne hc hline
      rw [List.cons_append] at hread ⊢
      rw [leadingDigits.eq_2 _ (by simp [hd]), hread]

/-! ## Numbers -/

/-- What follows the digits before the point of a number that is written: a point or a
delimiter. -/
def EndsDigits (c : Char) : Prop := c = '.' ∨ IsDelimiter c

/-- What ends the digits is none, and no mark of another kind of number. -/
theorem EndsDigits.spec (h : EndsDigits c) :
    isDigit c = false ∧ c ≠ '_' ∧ c ≠ '-' ∧ c ≠ ':' ∧ c ≠ 'x' ∧ c ≠ 'o' ∧ c ≠ 'b' := by
  obtain rfl | rfl | rfl | rfl := h <;> decide

/-- The first character that is no digit is the same however a text is split there. -/
theorem eq_of_digits_append (xs : List Char) {rest : List Char} (hds : ∀ c ∈ ds, isDigit c = true)
    (hc : isDigit c = false) (hxs : ∀ c ∈ xs, isDigit c = true) (hd : isDigit d = false)
    (h : ds ++ c :: after = xs ++ d :: rest) : c = d := by
  have hdrop := congrArg (List.dropWhile isDigit) h
  rw [List.dropWhile_append_of_pos hds, List.dropWhile_append_of_pos hxs,
    List.dropWhile_cons_of_neg (by simp [hc]), List.dropWhile_cons_of_neg (by simp [hd])] at hdrop
  exact (List.cons.inj hdrop).1

/-- Digits without a sign are not taken for a date or a time of day. -/
theorem numberOrMoment_digits (hds : ∀ c ∈ ds, isDigit c = true) (hc : EndsDigits c) :
    numberOrMoment (ds ++ c :: after) = number (ds ++ c :: after) := by
  obtain ⟨hdigit, -, hminus, hcolon, -, -, -⟩ := hc.spec
  -- a hyphen or a colon after the digits would be the character that ends them
  unfold numberOrMoment
  split
  · next a b e f rest heq =>
    rw [if_neg]
    intro hall
    have hxs := List.all_eq_true.mp hall
    exact hminus (eq_of_digits_append _ hds hdigit hxs (by decide) heq)
  · next a b rest hnot heq =>
    rw [if_neg]
    intro hall
    have hxs := List.all_eq_true.mp hall
    exact hcolon (eq_of_digits_append _ hds hdigit hxs (by decide) heq)
  · rfl

/-- A sign starts no date and no time of day. -/
theorem numberOrMoment_minus (s : List Char) : numberOrMoment ('-' :: s) = number ('-' :: s) := by
  unfold numberOrMoment
  split
  · next a b e f rest heq =>
    obtain ⟨rfl, -⟩ := List.cons.inj heq
    rw [if_neg (by simp [isDigit])]
  · next a b rest hnot heq =>
    obtain ⟨rfl, -⟩ := List.cons.inj heq
    rw [if_neg (by simp [isDigit])]
  · rfl

/-- A number whose sign is taken off, and which then begins with digits, is read as those
before a point. -/
theorem number_of_sign {s : List Char} (sign : Option Bool)
    (hsign : sign? s = (sign, ds ++ c :: after))
    (hbase : ∀ m rest, isDigit m = false → c ≠ m → s ≠ '0' :: m :: rest)
    (hds : ∀ c ∈ ds, isDigit c = true) (hne : ds ≠ [])
    (hzero : ds.head? = some '0' → ds = ['0']) (hc : EndsDigits c) :
    number s = afterDigits (sign = some true) ds (c :: after) := by
  obtain ⟨hdigit, hline, -, -, hx, ho, hb⟩ := hc.spec
  rw [number.eq_4 _ (fun s heq => hbase 'x' s (by decide) hx heq)
    (fun s heq => hbase 'o' s (by decide) ho heq) (fun s heq => hbase 'b' s (by decide) hb heq)]
  simp only [hsign]
  -- neither `inf` nor `nan` begins with a digit
  have hfirst : ∀ m rest, isDigit m = false → ds ++ c :: after ≠ m :: rest := by
    intro m rest hm heq
    cases ds with
    | nil => exact hne rfl
    | cons d ds =>
      obtain ⟨rfl, -⟩ := List.cons.inj heq
      exact absurd (hds d List.mem_cons_self) (by simp [hm])
  split
  · next s heq => exact absurd heq (hfirst 'i' _ (by decide))
  · next s heq => exact absurd heq (hfirst 'n' _ (by decide))
  · rw [leadingDigits_append hds hne hzero hdigit hline]
    rfl

/-- Digits without a sign are those before a point. -/
theorem number_digits (hds : ∀ c ∈ ds, isDigit c = true) (hne : ds ≠ [])
    (hzero : ds.head? = some '0' → ds = ['0']) (hc : EndsDigits c) :
    number (ds ++ c :: after) = afterDigits false ds (c :: after) := by
  refine number_of_sign none ?_ ?_ hds hne hzero hc
  · cases ds with
    | nil => exact absurd rfl hne
    | cons d ds =>
      have hd := hds d List.mem_cons_self
      rw [List.cons_append, sign?.eq_3 _ (by rintro rest ⟨⟩; exact absurd hd (by decide))
        (by rintro rest ⟨⟩; exact absurd hd (by decide))]
  · -- a mark of another base would be the second character, which is a digit or ends them
    exact fun m rest hm hcm heq =>
      hcm (eq_of_digits_append ['0'] hds hc.spec.1 (List.forall_mem_singleton.mpr (by decide))
        hm heq)

/-- So are digits after a minus. -/
theorem number_minus (hds : ∀ c ∈ ds, isDigit c = true) (hne : ds ≠ [])
    (hzero : ds.head? = some '0' → ds = ['0']) (hc : EndsDigits c) :
    number ('-' :: (ds ++ c :: after)) = afterDigits true ds (c :: after) :=
  number_of_sign (some true) rfl (fun _ _ _ _ heq => absurd heq (by simp)) hds hne hzero hc

/-- Digits alone make a whole number, if it fits 64 bits with a sign. -/
theorem afterDigits_whole (hc : IsDelimiter c) (h : valueOf 10 ds < 9223372036854775808) :
    afterDigits false ds (c :: after) = some (.whole (valueOf 10 ds), c :: after) := by
  have hwhole : wholeDatum? false (valueOf 10 ds) = some (.whole (valueOf 10 ds)) := by
    rw [wholeDatum?, if_neg (by decide), if_pos h]
  obtain rfl | rfl | rfl := hc <;> simp [afterDigits, hwhole]

/-- **A whole number that is written is read back**, if it fits 64 bits with a sign. -/
theorem numberOrMoment_whole (h : n < 9223372036854775808) (hc : IsDelimiter c) :
    numberOrMoment (Nat.toDigits 10 n ++ c :: after) = some (.whole n, c :: after) := by
  have hds : ∀ c ∈ Nat.toDigits 10 n, isDigit c = true := fun c hmem =>
    isDigit_of_isDigit (Nat.isDigit_of_mem_toDigits (by decide) (by decide) hmem)
  have hvalue : valueOf 10 (Nat.toDigits 10 n) = n := by
    rw [valueOf_eq_ofDigitChars hds, Nat.ofDigitChars_toDigits (by decide) (by decide)]
  have hzero : (Nat.toDigits 10 n).head? = some '0' → Nat.toDigits 10 n = ['0'] := fun hhead => by
    obtain ⟨rest, hrest⟩ := List.head?_eq_some_iff.mp hhead
    rw [hrest, toDigits_zero_cons hrest]
  rw [numberOrMoment_digits hds (.inr hc), number_digits hds Nat.toDigits_ne_nil hzero (.inr hc),
    afterDigits_whole hc (by rwa [hvalue]), hvalue]

/-! ## Numbers with a fraction -/

/-- Digits, a point and further digits make a decimal, if it is not too large. -/
theorem afterDigits_fraction (hfraction : ∀ c ∈ fraction, isDigit c = true) (hne : fraction ≠ [])
    (hc : IsDelimiter c)
    (hfinite : Decimal.pattern ⟨valueOf 10 (ds ++ fraction), -fraction.length⟩
      ≠ Format.double.infinity) :
    afterDigits negative ds ('.' :: (fraction ++ c :: after))
      = some (.real (.ofDecimal negative ⟨valueOf 10 (ds ++ fraction), -fraction.length⟩),
          c :: after) := by
  have hdigits : digits isDigit (fraction ++ c :: after) = some (fraction, c :: after) := by
    obtain ⟨hdigit, hline, -⟩ := EndsDigits.spec (.inr hc)
    exact digits_append hfraction hne hdigit hline
  have hreal : realDatum? negative ds fraction 0
      = some (.real (.ofDecimal negative ⟨valueOf 10 (ds ++ fraction), -fraction.length⟩)) := by
    unfold realDatum?
    simp only [Int.zero_sub, hfinite]
    simp
  obtain rfl | rfl | rfl := hc <;> simp [afterDigits, hdigits, hreal]

/-- The digits of a number, with zeros in front until there is one more than `places`. -/
def paddedDigits (places n : Nat) : List Char :=
  List.replicate (places + 1 - (Nat.toDigits 10 n).length) '0' ++ Nat.toDigits 10 n

variable {places : Nat}

theorem length_paddedDigits (places n : Nat) :
    (paddedDigits places n).length
      = places + 1 - (Nat.toDigits 10 n).length + (Nat.toDigits 10 n).length := by
  rw [paddedDigits, List.length_append, List.length_replicate]

theorem isDigit_of_mem_paddedDigits (h : c ∈ paddedDigits places n) : isDigit c = true := by
  obtain hzero | hdigit := List.mem_append.mp h
  · rw [List.eq_of_mem_replicate hzero]
    decide
  · exact isDigit_of_isDigit (Nat.isDigit_of_mem_toDigits (by decide) (by decide) hdigit)

/-- The zeros in front do not count. -/
theorem valueOf_paddedDigits (places n : Nat) : valueOf 10 (paddedDigits places n) = n := by
  rw [valueOf_eq_ofDigitChars fun c => isDigit_of_mem_paddedDigits, paddedDigits,
    Nat.ofDigitChars_append, Nat.ofDigitChars_replicate_zero, Nat.mul_zero,
    Nat.ofDigitChars_toDigits (by decide) (by decide)]

/-- A zero in front is one more digit than the places, and no further one comes with it. -/
theorem length_of_paddedDigits_zero_cons (hplaces : 0 < places)
    (h : paddedDigits places n = '0' :: ds) : ds.length = places := by
  have hlength := length_paddedDigits places n
  rw [h, List.length_cons] at hlength
  by_cases hlong : places + 1 - (Nat.toDigits 10 n).length = 0
  · -- no zero was put in front, and only zero begins with one
    rw [paddedDigits, hlong, List.replicate_zero, List.nil_append] at h
    have hone := congrArg List.length h
    rw [toDigits_zero_cons h, List.length_cons, List.length_nil] at hone
    omega
  · omega

/-- **How a decimal with digits behind the point is written**: digits before the point, of
which the first is no zero unless it is the only one, and digits behind it, which
together give the decimal again. -/
theorem plain_eq {x : Decimal} (h : x.exponent < 0) :
    ∃ whole fraction : List Char, x.plain = whole ++ '.' :: fraction ∧
      (∀ c ∈ whole, isDigit c = true) ∧ whole ≠ [] ∧
      (whole.head? = some '0' → whole = ['0']) ∧
      (∀ c ∈ fraction, isDigit c = true) ∧ fraction ≠ [] ∧
      (⟨valueOf 10 (whole ++ fraction), -fraction.length⟩ : Decimal) = x := by
  obtain ⟨digits, exponent⟩ := x
  obtain ⟨places, rfl⟩ := Int.exists_eq_neg_ofNat (Int.le_of_lt h)
  have hplaces : 0 < places := by
    dsimp only at h
    omega
  have hplain : Decimal.plain ⟨digits, -places⟩
      = (paddedDigits places digits).take ((paddedDigits places digits).length - places) ++
        '.' :: (paddedDigits places digits).drop
          ((paddedDigits places digits).length - places) := by
    rw [Decimal.plain, Int.neg_neg, Int.toNat_natCast]
    rfl
  have hlength := length_paddedDigits places digits
  have hsplit := List.take_append_drop ((paddedDigits places digits).length - places)
    (paddedDigits places digits)
  have hwhole : ((paddedDigits places digits).take
      ((paddedDigits places digits).length - places)).length
      = (paddedDigits places digits).length - places := List.length_take_of_le (Nat.sub_le _ _)
  have hfraction : ((paddedDigits places digits).drop
      ((paddedDigits places digits).length - places)).length = places := by
    rw [List.length_drop]
    omega
  generalize (paddedDigits places digits).take _ = whole at hplain hsplit hwhole
  generalize (paddedDigits places digits).drop _ = fraction at hplain hsplit hfraction
  have hdigits : ∀ c ∈ whole ++ fraction, isDigit c = true := fun c hmem =>
    isDigit_of_mem_paddedDigits (hsplit ▸ hmem)
  refine ⟨whole, fraction, hplain, fun c hmem => hdigits c (List.mem_append_left _ hmem),
    List.ne_nil_of_length_pos (by omega), fun hhead => ?_,
    fun c hmem => hdigits c (List.mem_append_right _ hmem),
    List.ne_nil_of_length_pos (by omega), ?_⟩
  · obtain ⟨rest, rfl⟩ := List.head?_eq_some_iff.mp hhead
    rw [List.cons_append] at hsplit
    have hone := length_of_paddedDigits_zero_cons hplaces hsplit.symm
    rw [List.length_append, hfraction] at hone
    rw [List.length_eq_zero_iff.mp (by omega : rest.length = 0)]
  · rw [hsplit, valueOf_paddedDigits, hfraction]

/-- **A finite number of 64 bits that is written is read back.** -/
theorem numberOrMoment_plain {p : Nat} (h : p < Format.double.infinity) (negative : Bool)
    (hc : IsDelimiter c) :
    numberOrMoment ((Binary64.ofPattern negative p).plain ++ c :: after)
      = some (.real (.ofPattern negative p), c :: after) := by
  obtain ⟨whole, fraction, hplain, hwhole, hne, hzero, hfraction, hsome, hvalue⟩ :=
    plain_eq (Decimal.exponent_shortest_neg p)
  have hpattern : (⟨valueOf 10 (whole ++ fraction), -fraction.length⟩ : Decimal).pattern = p := by
    rw [hvalue, Decimal.pattern_shortest h]
  have hread : ∀ negative, afterDigits negative whole ('.' :: (fraction ++ c :: after))
      = some (.real (.ofPattern negative p), c :: after) := fun negative => by
    rw [afterDigits_fraction hfraction hsome hc (by rw [hpattern]; exact h.ne),
      Binary64.ofDecimal, hpattern]
  obtain ⟨hown, hsign⟩ := Binary64.pattern_ofPattern h negative
  unfold Binary64.plain
  rw [hown, hsign, if_neg (Nat.not_lt.mpr h.le), if_neg h.ne, hplain]
  cases negative with
  | false =>
    rw [if_neg (by decide), List.nil_append, List.append_assoc, List.cons_append,
      numberOrMoment_digits hwhole (.inl rfl), number_digits hwhole hne hzero (.inl rfl), hread]
  | true =>
    rw [if_pos rfl, List.append_assoc, List.append_assoc, List.cons_append, List.cons_append,
      List.nil_append, numberOrMoment_minus, number_minus hwhole hne hzero (.inl rfl), hread]

/-! ## What numbers look like -/

/-- What a number that is written looks like: a digit or a minus, and then digits and
points. -/
def IsNumeral (s : List Char) : Prop :=
  ∃ d rest, s = d :: rest ∧ (isDigit d = true ∨ d = '-') ∧ ∀ c ∈ rest, isDigit c = true ∨ c = '.'

theorem isNumeral_toDigits (n : Nat) : IsNumeral (Nat.toDigits 10 n) := by
  have hdigits : ∀ c ∈ Nat.toDigits 10 n, isDigit c = true := fun c hmem =>
    isDigit_of_isDigit (Nat.isDigit_of_mem_toDigits (by decide) (by decide) hmem)
  obtain ⟨d, rest, hd⟩ := List.exists_cons_of_ne_nil (Nat.toDigits_ne_nil (n := n) (b := 10))
  rw [hd] at hdigits ⊢
  exact ⟨d, rest, rfl, .inl (hdigits d List.mem_cons_self),
    fun c hmem => .inl (hdigits c (List.mem_cons_of_mem d hmem))⟩

theorem isNumeral_plain {p : Nat} (h : p < Format.double.infinity) (negative : Bool) :
    IsNumeral (Binary64.ofPattern negative p).plain := by
  obtain ⟨whole, fraction, hplain, hwhole, hne, -, hfraction, -⟩ :=
    plain_eq (Decimal.exponent_shortest_neg p)
  obtain ⟨hown, hsign⟩ := Binary64.pattern_ofPattern h negative
  obtain ⟨d, rest, rfl⟩ := List.exists_cons_of_ne_nil hne
  have hmem : ∀ c ∈ rest ++ '.' :: fraction, isDigit c = true ∨ c = '.' := fun c hmem => by
    obtain hrest | hpoint := List.mem_append.mp hmem
    · exact .inl (hwhole c (List.mem_cons_of_mem d hrest))
    · obtain rfl | hbehind := List.mem_cons.mp hpoint
      · exact .inr rfl
      · exact .inl (hfraction c hbehind)
  unfold Binary64.plain
  rw [hown, hsign, if_neg (Nat.not_lt.mpr h.le), if_neg h.ne, hplain]
  cases negative with
  | false => exact ⟨d, _, rfl, .inl (hwhole d List.mem_cons_self), hmem⟩
  | true =>
    refine ⟨'-', _, rfl, .inr rfl, fun c hc => ?_⟩
    obtain rfl | hrest := List.mem_cons.mp hc
    · exact .inl (hwhole c List.mem_cons_self)
    · exact hmem c hrest

end InstancedZones.Toml
