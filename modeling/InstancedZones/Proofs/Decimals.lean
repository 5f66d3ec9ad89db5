import InstancedZones.Decimal.Shortest
import InstancedZones.Proofs.Rounding

/-!
# A decimal that reads back

The decimal that a number of 64 bits is written with reads back as the same number,
`Decimal.pattern_shortest`. The search for a short one only takes one that does, and if
it found none the decimal with all digits would do, since that is the value itself and is
not rounded, `Decimal.pattern_exact`. Either has at least one digit behind the point,
`Decimal.exponent_shortest_neg`.
-/

namespace InstancedZones

namespace Decimal

variable {n k p : Nat} {d : Decimal}

/-- A number has at most so many digits if it is below that power of ten. -/
theorem digitCount_le_iff (hk : 0 < k) : digitCount n ≤ k ↔ n < 10 ^ k :=
  Nat.length_toDigits_le_iff (by decide) hk

/-- How many digits all the digits of a finite number are that is not zero. -/
theorem digitCount_exact (hzero : p ≠ 0) (h : p < Format.double.infinity) :
    673 < digitCount (exact p).digits ∧ digitCount (exact p).digits ≤ 1474 := by
  have hpos : 0 < Format.double.units p :=
    Nat.zero_lt_of_lt (Format.double.strictMono_units (Nat.pos_of_ne_zero hzero))
  have hbelow : Format.double.units p < 2 ^ 2098 := by
    have hlt := Format.double.strictMono_units h
    have hexponent : Format.double.fractionBits + (2 ^ Format.double.exponentBits - 2) = 2098 := by
      decide
    rw [Format.units_infinity (by decide), hexponent] at hlt
    exact hlt
  have hsize : Format.double.unitExponent = 1074 := by decide
  have hlow : 10 ^ 673 ≤ 5 ^ Format.double.unitExponent := by
    rw [hsize]
    decide +kernel
  have hhigh : 2 ^ 2098 * 5 ^ Format.double.unitExponent ≤ 10 ^ 1474 := by
    rw [hsize]
    decide +kernel
  have hfive : 0 < 5 ^ Format.double.unitExponent := Nat.pow_pos (by decide)
  unfold exact
  simp only [Nat.pow_eq]
  rw [← Nat.not_le, digitCount_le_iff (by decide), digitCount_le_iff (by decide), Nat.not_lt]
  generalize 5 ^ Format.double.unitExponent = fives at hlow hhigh hfive ⊢
  exact ⟨hlow.trans (Nat.le_mul_of_pos_left _ hpos),
    (Nat.mul_lt_mul_of_pos_right hbelow hfive).trans_le hhigh⟩

/-- **The decimal with all digits reads back.** -/
theorem pattern_exact (hzero : p ≠ 0) (h : p < Format.double.infinity) :
    (exact p).pattern = p := by
  obtain ⟨hfew, hmany⟩ := digitCount_exact hzero h
  have hexponent : (exact p).exponent = -(Format.double.unitExponent : Int) := rfl
  have hsize : Format.double.unitExponent = 1074 := by decide
  have hnonzero : (exact p).digits ≠ 0 := fun hdigits => by
    rw [hdigits] at hfew
    exact absurd hfew (by decide)
  unfold pattern
  dsimp only
  rw [if_neg hnonzero, hexponent]
  generalize digitCount (exact p).digits = count at hfew hmany ⊢
  rw [if_neg (by omega), if_neg (by omega), Int.toNat_neg_natCast, Int.neg_neg, Int.toNat_natCast]
  simp only [Nat.pow_eq]
  refine Format.nearest_of_units (Nat.pow_pos (by decide)) ?_ h
  -- a power of ten is one of five and one of two
  unfold exact Format.unitsOfOne
  simp only [Nat.pow_eq, Nat.pow_zero, Nat.mul_one]
  rw [Nat.mul_assoc, ← Nat.mul_pow]

/-- **The decimal that a number is written with reads back.** -/
theorem pattern_shortest (h : p < Format.double.infinity) : (shortest p).pattern = p := by
  unfold shortest
  split
  · next hzero => rw [hzero]; rfl
  · next hzero =>
    dsimp only
    -- either a candidate that reads back is found, or all digits are taken
    generalize hfound : List.find? _ _ = found
    cases found with
    | some d =>
      have hreads := List.find?_some hfound
      exact of_decide_eq_true hreads
    | none => exact pattern_exact hzero h

/-- An aligned decimal has a digit behind the point. -/
theorem exponent_aligned_neg (d : Decimal) : d.aligned.exponent < 0 := by
  unfold aligned
  split
  · exact Int.negSucc_lt_zero 0
  · split
    · show d.exponent + 1 < 0
      omega
    · omega

/-- The decimal that a number is written with has a digit behind the point. -/
theorem exponent_shortest_neg (p : Nat) : (shortest p).exponent < 0 := by
  unfold shortest
  split
  · decide
  · dsimp only
    generalize hfound : List.find? _ _ = found
    cases found with
    | some d =>
      obtain ⟨_, -, hmem⟩ := List.mem_flatMap.mp (List.mem_of_find?_eq_some hfound)
      obtain ⟨d', -, rfl⟩ := List.mem_map.mp hmem
      exact d'.exponent_aligned_neg
    | none =>
      show -((1074 : Nat) : Int) < 0
      decide

end Decimal

end InstancedZones
