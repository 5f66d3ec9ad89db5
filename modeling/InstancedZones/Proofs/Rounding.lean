import InstancedZones.Decimal.Binary
import Mathlib.Order.Monotone.Basic
import Mathlib.Tactic.Ring

/-!
# What a format has is not rounded

The values of a binary format grow with their patterns, `Format.strictMono_units`, so a
pattern is known by its value. A fraction that a format has is rounded to the pattern
that has it, `Format.nearest_of_units`: rounding only ever loses what a format lacks.

The format of 64 bits has every value of the one of 32 bits, `Format.exists_double`, and
so a number that is widened and narrowed again is the same number, minus zero included,
`Binary32.ofBinary64_toBinary64`.
-/

namespace InstancedZones

namespace Format

variable {f : Format} {p q num den k : Nat}

/-! ## Patterns and their values -/

/-- A pattern without an exponent counts units. -/
theorem units_of_lt (h : p < 2 ^ f.fractionBits) : f.units p = p := by
  rw [units, Nat.pow_eq, Nat.div_eq_of_lt h, if_pos rfl, Nat.mod_eq_of_lt h]

/-- The pattern with an exponent, and a fraction that is less than one. -/
theorem units_of_exponent (f : Format) (exponent : Nat) {fraction : Nat}
    (h : fraction < 2 ^ f.fractionBits) :
    f.units ((exponent + 1) * 2 ^ f.fractionBits + fraction)
      = (2 ^ f.fractionBits + fraction) * 2 ^ exponent := by
  have hexponent : ((exponent + 1) * 2 ^ f.fractionBits + fraction) / 2 ^ f.fractionBits
      = exponent + 1 := by
    rw [Nat.mul_comm, Nat.mul_add_div (Nat.two_pow_pos _), Nat.div_eq_of_lt h, Nat.add_zero]
  have hfraction : ((exponent + 1) * 2 ^ f.fractionBits + fraction) % 2 ^ f.fractionBits
      = fraction := by
    rw [Nat.mul_add_mod_self_right, Nat.mod_eq_of_lt h]
  rw [units]
  simp only [Nat.pow_eq]
  rw [hexponent, hfraction, if_neg (Nat.succ_ne_zero exponent), Nat.add_sub_cancel]

/-- Every pattern has no exponent, or one and a fraction. -/
theorem pattern_cases (f : Format) (p : Nat) :
    p < 2 ^ f.fractionBits ∨ ∃ exponent fraction, fraction < 2 ^ f.fractionBits ∧
      p = (exponent + 1) * 2 ^ f.fractionBits + fraction := by
  have hmod := Nat.div_add_mod' p (2 ^ f.fractionBits)
  cases hexponent : p / 2 ^ f.fractionBits with
  | zero =>
    refine .inl ?_
    rw [hexponent, Nat.zero_mul, Nat.zero_add] at hmod
    rw [← hmod]
    exact Nat.mod_lt _ (Nat.two_pow_pos _)
  | succ exponent =>
    rw [hexponent] at hmod
    exact .inr ⟨exponent, _, Nat.mod_lt _ (Nat.two_pow_pos _), hmod.symm⟩

/-- **The next pattern has the next larger value.** -/
theorem units_lt_units_succ (f : Format) (p : Nat) : f.units p < f.units (p + 1) := by
  obtain h | ⟨exponent, fraction, h, rfl⟩ := f.pattern_cases p
  · rw [units_of_lt h]
    obtain hnext | hnext := Nat.lt_or_eq_of_le (Nat.succ_le_of_lt h)
    · rw [units_of_lt hnext]
      exact Nat.lt_succ_self p
    · -- the first pattern with an exponent
      have hfirst := f.units_of_exponent 0 (Nat.two_pow_pos f.fractionBits)
      rw [Nat.zero_add, Nat.one_mul, Nat.add_zero, Nat.pow_zero, Nat.mul_one] at hfirst
      rw [← Nat.succ_eq_add_one, hnext, hfirst]
      exact h
  · rw [units_of_exponent f exponent h]
    obtain hnext | hnext := Nat.lt_or_eq_of_le (Nat.succ_le_of_lt h)
    · rw [Nat.add_assoc, units_of_exponent f exponent hnext]
      exact Nat.mul_lt_mul_of_pos_right (by omega) (Nat.two_pow_pos _)
    · -- the fraction is full: the exponent grows, and the fraction starts anew
      have hcarry : (exponent + 1) * 2 ^ f.fractionBits + fraction + 1
          = (exponent + 1 + 1) * 2 ^ f.fractionBits + 0 := by
        rw [Nat.add_assoc, ← Nat.succ_eq_add_one fraction, hnext]
        ring
      rw [hcarry, units_of_exponent f _ (Nat.two_pow_pos _), Nat.pow_succ]
      calc (2 ^ f.fractionBits + fraction) * 2 ^ exponent
          < (2 ^ f.fractionBits * 2) * 2 ^ exponent :=
            Nat.mul_lt_mul_of_pos_right (by omega) (Nat.two_pow_pos _)
        _ = (2 ^ f.fractionBits + 0) * (2 ^ exponent * 2) := by ring

/-- **The values of a format grow with their patterns.** -/
theorem strictMono_units (f : Format) : StrictMono f.units :=
  strictMono_nat_of_lt_succ f.units_lt_units_succ

/-- The least value that is too large. -/
theorem units_infinity (h : f.exponentBits ≠ 0) :
    f.units f.infinity = 2 ^ (f.fractionBits + (2 ^ f.exponentBits - 2)) := by
  have htwo : 2 ≤ 2 ^ f.exponentBits := Nat.le_self_pow h 2
  have hshape : (2 ^ f.exponentBits - 1) * 2 ^ f.fractionBits
      = (2 ^ f.exponentBits - 2 + 1) * 2 ^ f.fractionBits + 0 := by
    rw [Nat.add_zero, show 2 ^ f.exponentBits - 2 + 1 = 2 ^ f.exponentBits - 1 by omega]
  unfold infinity
  simp only [Nat.pow_eq]
  rw [hshape, units_of_exponent f _ (Nat.two_pow_pos _), Nat.add_zero, ← Nat.pow_add]

/-- One is some units. -/
theorem unitsOfOne_pos (f : Format) : 0 < f.unitsOfOne := Nat.two_pow_pos _

/-- A value below the least that is too large has a finite pattern. -/
theorem lt_infinity_of_units_lt (h : f.units p < f.units f.infinity) : p < f.infinity :=
  f.strictMono_units.lt_iff_lt.mp h

/-- Infinity is among the patterns of the format. -/
theorem infinity_lt (f : Format) : f.infinity < 2 ^ (f.fractionBits + f.exponentBits) := by
  unfold infinity
  simp only [Nat.pow_eq]
  rw [Nat.add_comm, Nat.pow_add]
  exact Nat.mul_lt_mul_of_pos_right (Nat.sub_lt (Nat.two_pow_pos _) Nat.one_pos) (Nat.two_pow_pos _)

/-! ## Rounding -/

/-- The search finds the pattern that has the value, if one has it. -/
theorem floorFrom_of_units (hden : 0 < den) (h : f.units p * den = num) :
    ∀ {k low : Nat}, low ≤ p → p < low + 2 ^ k → f.floorFrom num den k low = p := by
  intro k
  induction k with
  | zero =>
    intro low hle hlt
    rw [floorFrom]
    rw [Nat.pow_zero] at hlt
    omega
  | succ k ih =>
    intro low hle hlt
    rw [Nat.pow_succ] at hlt
    rw [floorFrom]
    simp only [Nat.pow_eq]
    -- what is tried is low enough just if its pattern is
    have htry : f.units (low + 2 ^ k) * den ≤ num ↔ low + 2 ^ k ≤ p := by
      rw [← h, Nat.mul_le_mul_right_iff hden]
      exact f.strictMono_units.le_iff_le
    split
    · next hlow => exact ih (htry.mp hlow) (by omega)
    · next hlow => exact ih hle (Nat.lt_of_not_le fun hle => hlow (htry.mpr hle))

/-- **A value that a format has is not rounded.** -/
theorem nearest_of_units (hden : 0 < den) (h : f.units p * den = num * f.unitsOfOne)
    (hp : p < f.infinity) : f.nearest num den = p := by
  have hlow : f.floorFrom (num * f.unitsOfOne) den (f.fractionBits + f.exponentBits) 0 = p := by
    refine floorFrom_of_units hden h (Nat.zero_le p) ?_
    rw [Nat.zero_add]
    exact hp.trans f.infinity_lt
  have hbelow : 2 * (num * f.unitsOfOne) < (f.units p + f.units (p + 1)) * den := by
    rw [← h, Nat.add_mul, Nat.two_mul]
    exact Nat.add_lt_add_left (Nat.mul_lt_mul_of_pos_right (f.units_lt_units_succ p) hden) _
  rw [nearest]
  simp only [hlow, if_neg (Nat.not_le.mpr hp), if_pos hbelow]

/-! ## The values of a format -/

/-- The value of a pattern: a significand of one bit more than is stored, and a power of
two. -/
theorem exists_units_eq (f : Format) (p : Nat) :
    ∃ significand exponent, significand < 2 ^ (f.fractionBits + 1) ∧
      f.units p = significand * 2 ^ exponent := by
  rw [Nat.pow_succ]
  obtain h | ⟨exponent, fraction, h, rfl⟩ := f.pattern_cases p
  · exact ⟨p, 0, by omega, by rw [units_of_lt h, Nat.pow_zero, Nat.mul_one]⟩
  · exact ⟨2 ^ f.fractionBits + fraction, exponent, by omega, units_of_exponent f exponent h⟩

/-- **Every such value has a pattern.** -/
theorem exists_pattern (f : Format) (exponent : Nat) :
    ∀ {significand : Nat}, significand < 2 ^ (f.fractionBits + 1) →
      ∃ p, f.units p = significand * 2 ^ exponent := by
  induction exponent with
  | zero =>
    intro significand h
    rw [Nat.pow_succ] at h
    by_cases hsmall : significand < 2 ^ f.fractionBits
    · exact ⟨significand, by rw [units_of_lt hsmall, Nat.pow_zero, Nat.mul_one]⟩
    · refine ⟨(0 + 1) * 2 ^ f.fractionBits + (significand - 2 ^ f.fractionBits), ?_⟩
      rw [units_of_exponent f 0 (by omega), Nat.add_sub_of_le (Nat.not_lt.mp hsmall)]
  | succ exponent ih =>
    intro significand h
    by_cases hsmall : significand < 2 ^ f.fractionBits
    · -- one bit of the power goes into the significand
      have hdouble : 2 * significand < 2 ^ (f.fractionBits + 1) := by
        rw [Nat.pow_succ]
        omega
      obtain ⟨p, hp⟩ := ih hdouble
      exact ⟨p, by rw [hp]; ring⟩
    · rw [Nat.pow_succ] at h
      refine ⟨(exponent + 1 + 1) * 2 ^ f.fractionBits + (significand - 2 ^ f.fractionBits), ?_⟩
      rw [units_of_exponent f (exponent + 1) (by omega),
        Nat.add_sub_of_le (Nat.not_lt.mp hsmall)]

/-- **A wider format has all values of a narrower one**: one that stores as many bits or
more, counts in units as fine or finer, and goes as far. -/
theorem exists_wider {f g : Format} (hbits : f.fractionBits ≤ g.fractionBits)
    (hfine : f.unitExponent ≤ g.unitExponent) (hf : f.exponentBits ≠ 0)
    (hg : g.exponentBits ≠ 0)
    (hrange : f.fractionBits + (2 ^ f.exponentBits - 2) + (g.unitExponent - f.unitExponent)
      ≤ g.fractionBits + (2 ^ g.exponentBits - 2))
    (h : p < f.infinity) :
    ∃ q, q < g.infinity ∧ g.units q * f.unitsOfOne = f.units p * g.unitsOfOne := by
  obtain ⟨significand, exponent, hsignificand, hunits⟩ := f.exists_units_eq p
  obtain ⟨q, hq⟩ := g.exists_pattern (exponent + (g.unitExponent - f.unitExponent))
    (hsignificand.trans_le (Nat.pow_le_pow_right (by decide) (Nat.succ_le_succ hbits)))
  have hfiner : g.units q = f.units p * 2 ^ (g.unitExponent - f.unitExponent) := by
    rw [hq, hunits, Nat.pow_add, Nat.mul_assoc]
  refine ⟨q, lt_infinity_of_units_lt ?_, ?_⟩
  · calc g.units q = f.units p * 2 ^ (g.unitExponent - f.unitExponent) := hfiner
      _ < f.units f.infinity * 2 ^ (g.unitExponent - f.unitExponent) :=
        Nat.mul_lt_mul_of_pos_right (f.strictMono_units h) (Nat.two_pow_pos _)
      _ = 2 ^ (f.fractionBits + (2 ^ f.exponentBits - 2)
            + (g.unitExponent - f.unitExponent)) := by rw [units_infinity hf, ← Nat.pow_add]
      _ ≤ 2 ^ (g.fractionBits + (2 ^ g.exponentBits - 2)) :=
        Nat.pow_le_pow_right (by decide) hrange
      _ = g.units g.infinity := (units_infinity hg).symm
  · rw [hfiner, Nat.mul_assoc, unitsOfOne, unitsOfOne]
    simp only [Nat.pow_eq]
    rw [← Nat.pow_add, Nat.sub_add_cancel hfine]

/-- Every finite number of 32 bits is one of 64 bits. -/
theorem exists_double (h : p < single.infinity) :
    ∃ q, q < double.infinity ∧
      double.units q * single.unitsOfOne = single.units p * double.unitsOfOne :=
  exists_wider (by decide) (by decide) (by decide) (by decide) (by decide) h

end Format

/-! ## Signs and patterns -/

namespace Binary64

variable {p : Nat} {negative : Bool}

/-- A sign and a finite pattern fit 64 bits. -/
theorem bits_ofPattern (h : p < Format.double.infinity) (negative : Bool) :
    (ofPattern negative p).bits.toNat
      = p + if negative then Format.double.signBit else 0 := by
  have hinfinity : Format.double.infinity < 2 ^ 63 := by decide
  have hsign : Format.double.signBit = 2 ^ 63 := rfl
  unfold ofPattern
  rw [UInt64.toNat_ofNat', hsign]
  exact Nat.mod_eq_of_lt (by split <;> omega)

/-- The pattern and the sign that a number was made of. -/
theorem pattern_ofPattern (h : p < Format.double.infinity) (negative : Bool) :
    (ofPattern negative p).pattern = p ∧ (ofPattern negative p).isNegative = negative := by
  have hinfinity : Format.double.infinity < 2 ^ 63 := by decide
  have hsign : Format.double.signBit = 2 ^ 63 := rfl
  unfold pattern isNegative
  rw [bits_ofPattern h, hsign]
  cases negative with
  | false => simp; omega
  | true => simp; omega

end Binary64

namespace Binary32

/-- **A number is its sign and its pattern.** -/
theorem ofPattern_pattern (x : Binary32) : ofPattern x.isNegative x.pattern = x := by
  have hbits := x.bits.toNat_lt
  have hsign : Format.single.signBit = 2 ^ 31 := rfl
  unfold ofPattern pattern isNegative
  rw [hsign]
  have hsplit : (x.bits.toNat % 2 ^ 31
      + if decide (2 ^ 31 ≤ x.bits.toNat) = true then 2 ^ 31 else 0) = x.bits.toNat := by
    split
    · next h =>
      have := of_decide_eq_true h
      omega
    · next h =>
      have := of_decide_eq_false (Bool.eq_false_iff.mpr h)
      omega
  rw [hsplit, UInt32.ofNat_toNat]

/-- A finite number is widened to a finite pattern of 64 bits with the same value. -/
theorem toBinary64_spec {x : Binary32} (h : x.isFinite) :
    ∃ q, q < Format.double.infinity ∧ x.toBinary64 = .ofPattern x.isNegative q ∧
      Format.double.units q * Format.single.unitsOfOne
        = Format.single.units x.pattern * Format.double.unitsOfOne := by
  have hfinite : x.pattern < Format.single.infinity := of_decide_eq_true h
  obtain ⟨q, hq, hvalue⟩ := Format.exists_double hfinite
  refine ⟨q, hq, ?_, hvalue⟩
  unfold toBinary64
  rw [if_neg (Nat.not_lt.mpr hfinite.le), if_neg hfinite.ne,
    Format.nearest_of_units Format.single.unitsOfOne_pos hvalue hq]

/-- **A finite number that is widened and narrowed again is the same**, down to the sign
of a zero. -/
theorem ofBinary64_toBinary64 {x : Binary32} (h : x.isFinite) : ofBinary64 x.toBinary64 = x := by
  obtain ⟨q, hq, hwide, hvalue⟩ := toBinary64_spec h
  obtain ⟨hpattern, hnegative⟩ := Binary64.pattern_ofPattern hq x.isNegative
  unfold ofBinary64
  rw [hwide, hpattern, hnegative, if_neg (Nat.not_lt.mpr hq.le), if_neg hq.ne,
    Format.nearest_of_units Format.double.unitsOfOne_pos hvalue.symm (of_decide_eq_true h),
    ofPattern_pattern]

end Binary32

end InstancedZones
