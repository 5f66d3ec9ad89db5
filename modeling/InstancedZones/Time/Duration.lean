/-!
# Lengths of time

A length of time is a count of nanoseconds. It is bounded, so that its whole
seconds fit an unsigned 64-bit number.
-/

namespace InstancedZones

/-- A length of time, never negative. -/
structure Duration where
  /-- All of it, in nanoseconds. -/
  nanos : Nat
  /-- Its whole seconds fit 64 bits. -/
  nanos_lt : nanos < 18446744073709551616 * 1000000000
deriving DecidableEq

namespace Duration

/-- No time at all. -/
def zero : Duration := ⟨0, by omega⟩

instance : Inhabited Duration := ⟨zero⟩

/-- A whole number of seconds. -/
def ofSecs (secs : UInt64) : Duration :=
  ⟨secs.toNat * 1000000000, by have := secs.toNat_lt; omega⟩

/-- A whole number of milliseconds. -/
def ofMillis (ms : UInt64) : Duration :=
  ⟨ms.toNat * 1000000, by have := ms.toNat_lt; omega⟩

/-- Seconds and the nanoseconds beyond them, if they make a length of time. -/
def ofParts? (secs nanos : Nat) : Option Duration :=
  if h : secs * 1000000000 + nanos < 18446744073709551616 * 1000000000 then
    some ⟨secs * 1000000000 + nanos, h⟩
  else none

/-- The whole seconds. -/
def secs (d : Duration) : Nat := d.nanos / 1000000000

/-- The nanoseconds beyond the whole seconds. -/
def subsecNanos (d : Duration) : Nat := d.nanos % 1000000000

/-- The whole milliseconds. -/
def millis (d : Duration) : Nat := d.nanos / 1000000

/-- Whether no time passes. -/
def isZero (d : Duration) : Bool := d.nanos == 0

/-- The digits of `part` after a point, `part` being a count of units of which
`unit` (a power of ten) make one, less the zeros at the end. -/
private def fractionText (part unit : Nat) : String :=
  let digits := (Nat.toDigits 10 (unit + part)).drop 1
  let kept := (digits.reverse.dropWhile (· == '0')).reverse
  if kept.isEmpty then "" else "." ++ String.ofList kept

/-- So many nanoseconds as people read them: in the largest of s, ms, µs and ns
of which there is at least one, with as many decimals as it takes. -/
def nanosText (nanos : Nat) : String :=
  if 1000000000 ≤ nanos then
    s!"{nanos / 1000000000}" ++ fractionText (nanos % 1000000000) 1000000000 ++ "s"
  else if 1000000 ≤ nanos then
    s!"{nanos / 1000000}" ++ fractionText (nanos % 1000000) 1000000 ++ "ms"
  else if 1000 ≤ nanos then s!"{nanos / 1000}" ++ fractionText (nanos % 1000) 1000 ++ "µs"
  else s!"{nanos}ns"

end Duration

end InstancedZones
