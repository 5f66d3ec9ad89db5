/-!
# Binary numbers and rounding

The finite values of a binary format are counted off by their bit patterns:
with the sign left out, the pattern after `b` belongs to the next larger
value. `Format.units` gives the value of a pattern in units of the smallest
positive one, so that values are compared and rounded as natural numbers.

A fraction is rounded to the nearest value, and half-way between two values to
the one with the even pattern. The pattern after the largest finite value is
infinity. Its `units` continue the sequence, so that large fractions round to
it by the same rule.
-/

namespace InstancedZones

/-- The sizes of the parts of a binary number. -/
structure Format where
  /-- How many bits of the significand are stored. -/
  fractionBits : Nat
  /-- How many bits the exponent takes. -/
  exponentBits : Nat

namespace Format

/-- Numbers of 32 bits. -/
def single : Format := ⟨23, 8⟩

/-- Numbers of 64 bits. -/
def double : Format := ⟨52, 11⟩

/-- The pattern of infinity: the greatest exponent and nothing stored. -/
def infinity (f : Format) : Nat := (Nat.pow 2 f.exponentBits - 1) * Nat.pow 2 f.fractionBits

/-- The pattern of what is not a number: past infinity, with the first stored bit set. -/
def notANumber (f : Format) : Nat := f.infinity + Nat.pow 2 (f.fractionBits - 1)

/-- The bits with the sign alone, past all patterns. -/
def signBit (f : Format) : Nat := Nat.pow 2 (f.fractionBits + f.exponentBits)

/-- One is two to this power of units. -/
def unitExponent (f : Format) : Nat := Nat.pow 2 (f.exponentBits - 1) - 2 + f.fractionBits

/-- One, in units. -/
def unitsOfOne (f : Format) : Nat := Nat.pow 2 f.unitExponent

/-- The value of a pattern in units of the smallest positive value. -/
def units (f : Format) (pattern : Nat) : Nat :=
  let exponent := pattern / Nat.pow 2 f.fractionBits
  let fraction := pattern % Nat.pow 2 f.fractionBits
  if exponent = 0 then fraction
  else (Nat.pow 2 f.fractionBits + fraction) * Nat.pow 2 (exponent - 1)

/-- Extends the pattern `low` by lower bits, from bit `k` down, to the greatest
pattern whose value in units does not exceed `num / den`. -/
def floorFrom (f : Format) (num den : Nat) : Nat → Nat → Nat
  | 0, low => low
  | k + 1, low =>
    if f.units (low + Nat.pow 2 k) * den ≤ num then f.floorFrom num den k (low + Nat.pow 2 k)
    else f.floorFrom num den k low

/-- The pattern of the value nearest to the fraction `num / den`. -/
def nearest (f : Format) (num den : Nat) : Nat :=
  let scaled := num * f.unitsOfOne
  let low := f.floorFrom scaled den (f.fractionBits + f.exponentBits) 0
  if f.infinity ≤ low then f.infinity
  else
    let middle := (f.units low + f.units (low + 1)) * den
    if 2 * scaled < middle then low
    else if middle < 2 * scaled then low + 1
    else if low % 2 = 0 then low
    else low + 1

end Format

/-- A number of 32 bits. -/
structure Binary32 where
  /-- Sign, exponent and fraction. -/
  bits : UInt32
deriving DecidableEq, Repr

/-- A number of 64 bits. -/
structure Binary64 where
  /-- Sign, exponent and fraction. -/
  bits : UInt64
deriving DecidableEq, Repr

namespace Binary64

/-- The number with a sign and a pattern. -/
def ofPattern (negative : Bool) (pattern : Nat) : Binary64 :=
  ⟨UInt64.ofNat (pattern + if negative then Format.double.signBit else 0)⟩

/-- Whether the sign is negative. -/
def isNegative (x : Binary64) : Bool := Format.double.signBit ≤ x.bits.toNat

/-- The bits without the sign. -/
def pattern (x : Binary64) : Nat := x.bits.toNat % Format.double.signBit

/-- The infinity of a sign. -/
def infinity (negative : Bool) : Binary64 := ofPattern negative Format.double.infinity

/-- What is not a number. -/
def nan : Binary64 := ofPattern false Format.double.notANumber

/-- Whether the bits stand for no number. -/
def isNaN (x : Binary64) : Bool := Format.double.infinity < x.pattern

end Binary64

namespace Binary32

/-- The number with a sign and a pattern. -/
def ofPattern (negative : Bool) (pattern : Nat) : Binary32 :=
  ⟨UInt32.ofNat (pattern + if negative then Format.single.signBit else 0)⟩

/-- Whether the sign is negative. -/
def isNegative (x : Binary32) : Bool := Format.single.signBit ≤ x.bits.toNat

/-- The bits without the sign. -/
def pattern (x : Binary32) : Nat := x.bits.toNat % Format.single.signBit

/-- Zero. -/
def zero : Binary32 := ⟨0⟩

/-- One. -/
def one : Binary32 := ⟨0x3F800000⟩

/-- Whether the bits stand for no number. -/
def isNaN (x : Binary32) : Bool := Format.single.infinity < x.pattern

/-- Whether the bits stand for a number other than the infinities. -/
def isFinite (x : Binary32) : Bool := x.pattern < Format.single.infinity

/-- Whether a finite number is less than zero; minus zero is not. -/
def isBelowZero (x : Binary32) : Bool := x.isNegative && x.pattern ≠ 0

/-- The nearest number of 32 bits. -/
def ofBinary64 (x : Binary64) : Binary32 :=
  let double := Format.double
  if double.infinity < x.pattern then
    ofPattern x.isNegative Format.single.notANumber
  else if x.pattern = double.infinity then ofPattern x.isNegative Format.single.infinity
  else
    ofPattern x.isNegative
      (Format.single.nearest (double.units x.pattern) double.unitsOfOne)

/-- The number nearest to a whole number. -/
def ofInt (n : Int) : Binary32 := ofPattern (n < 0) (Format.single.nearest n.natAbs 1)

/-- The number of 64 bits with the same value. -/
def toBinary64 (x : Binary32) : Binary64 :=
  let single := Format.single
  if single.infinity < x.pattern then Binary64.nan
  else if x.pattern = single.infinity then Binary64.infinity x.isNegative
  else
    .ofPattern x.isNegative
      (Format.double.nearest (single.units x.pattern) single.unitsOfOne)

end Binary32

end InstancedZones
