import InstancedZones.Decimal.Binary

/-!
# Decimal numbers

A decimal number is some digits and a power of ten. Reading one gives the
nearest number of 64 bits; writing a number of 64 bits gives the decimal with
the fewest digits that reads back as the same number; of two with as few it is
the closer one, and the larger one half-way between.

The search tries one digit, two digits, and so on up to seventeen. On the grid
of decimals with so many digits only the two next to the value come into
question. Should none read back, the value itself is a decimal too.
-/

namespace InstancedZones

/-- A decimal number, not negative: `digits * 10 ^ exponent`. -/
structure Decimal where
  /-- The digits, as a whole number. -/
  digits : Nat
  /-- The power of ten they are multiplied by. -/
  exponent : Int
deriving DecidableEq, Repr

namespace Decimal

/-- How many digits a number is written with. -/
def digitCount (n : Nat) : Nat := (Nat.toDigits 10 n).length

/-- The pattern of the number of 64 bits nearest to a decimal. Decimals far
out of range are told by their size alone. -/
def pattern (d : Decimal) : Nat :=
  let size := digitCount d.digits + d.exponent
  if d.digits = 0 then 0
  else if 400 < size then Format.double.infinity
  else if size < -400 then 0
  else
    Format.double.nearest (d.digits * Nat.pow 10 d.exponent.toNat)
      (Nat.pow 10 (-d.exponent).toNat)

/-- The least power of ten above the fraction `num / den`, which is not zero. -/
def scale (num den : Nat) : Int :=
  if den ≤ num then digitCount (num / den)
  else 1 - digitCount ((den + num - 1) / num - 1)

/-- The two decimals with `10 ^ exponent` between them that are next to the
fraction `num / den`, the closer one first, and half-way the larger one. -/
def neighbours (num den : Nat) (exponent : Int) : List Decimal :=
  let num := num * Nat.pow 10 (-exponent).toNat
  let den := den * Nat.pow 10 exponent.toNat
  let low := num / den
  if 2 * (num % den) < den then [⟨low, exponent⟩, ⟨low + 1, exponent⟩]
  else [⟨low + 1, exponent⟩, ⟨low, exponent⟩]

/-- The decimal value of a finite pattern, with all its digits. -/
def exact (pattern : Nat) : Decimal where
  digits := Format.double.units pattern * Nat.pow 5 Format.double.unitExponent
  exponent := -(Format.double.unitExponent : Int)

/-- The same decimal with at least one digit behind the point, and without a
zero in the last of several places. -/
def aligned (d : Decimal) : Decimal :=
  if 0 ≤ d.exponent then ⟨d.digits * Nat.pow 10 (d.exponent.toNat + 1), -1⟩
  else if d.exponent < -1 ∧ d.digits % 10 = 0 then ⟨d.digits / 10, d.exponent + 1⟩
  else d

/-- The shortest decimal that reads back as a finite pattern, aligned. -/
def shortest (pattern : Nat) : Decimal :=
  if pattern = 0 then ⟨0, -1⟩
  else
    let num := Format.double.units pattern
    let den := Format.double.unitsOfOne
    let top := scale num den
    let candidates := (List.range 17).flatMap fun n =>
      (neighbours num den (top - ((n : Nat) + 1 : Int))).map aligned
    (candidates.find? fun d => d.pattern = pattern).getD (exact pattern)

/-- An aligned decimal with its point in place and no power of ten: at least
one digit stands before the point. -/
def plain (d : Decimal) : List Char :=
  let places := (-d.exponent).toNat
  let digits := Nat.toDigits 10 d.digits
  let padded := List.replicate (places + 1 - digits.length) '0' ++ digits
  padded.take (padded.length - places) ++ '.' :: padded.drop (padded.length - places)

end Decimal

/-- The number of 64 bits nearest to a decimal with a sign. -/
def Binary64.ofDecimal (negative : Bool) (d : Decimal) : Binary64 := .ofPattern negative d.pattern

/-- A number of 64 bits in plain decimal notation. -/
def Binary64.plain (x : Binary64) : List Char :=
  let sign := if x.isNegative then ['-'] else []
  if Format.double.infinity < x.pattern then ['n', 'a', 'n']
  else if x.pattern = Format.double.infinity then sign ++ ['i', 'n', 'f']
  else sign ++ (Decimal.shortest x.pattern).plain

/-- A number of 64 bits in plain decimal notation, without the point and the
zero after it if it is a whole number. -/
def Binary64.brief (x : Binary64) : List Char :=
  match x.plain.reverse with
  | '0' :: '.' :: whole => whole.reverse
  | _ => x.plain

end InstancedZones
