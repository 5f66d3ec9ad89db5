import InstancedZones.Time.Duration

/-!
# Points in time

A point in time is a signed count of nanoseconds from the epoch. Its seconds,
rounded towards the past, fit a signed 64-bit number, so adding a length of
time can leave the range; then there is no such point.
-/

namespace InstancedZones

/-- A point on the wall clock. -/
structure Timestamp where
  /-- Nanoseconds since the epoch, negative before it. -/
  nanos : Int
  /-- The seconds do not fall below the signed 64-bit range. -/
  lower : -9223372036854775808 * 1000000000 ≤ nanos
  /-- The seconds do not rise above the signed 64-bit range. -/
  upper : nanos < 9223372036854775808 * 1000000000
deriving DecidableEq

namespace Timestamp

/-- The epoch. -/
def epoch : Timestamp := ⟨0, by omega, by omega⟩

instance : Inhabited Timestamp := ⟨epoch⟩

instance : LE Timestamp := ⟨fun a b => a.nanos ≤ b.nanos⟩

instance : LT Timestamp := ⟨fun a b => a.nanos < b.nanos⟩

instance (a b : Timestamp) : Decidable (a ≤ b) := inferInstanceAs (Decidable (a.nanos ≤ b.nanos))

instance (a b : Timestamp) : Decidable (a < b) := inferInstanceAs (Decidable (a.nanos < b.nanos))

/-- The point that many nanoseconds from the epoch, if it is in range. -/
def ofNanos? (nanos : Int) : Option Timestamp :=
  if h : -9223372036854775808 * 1000000000 ≤ nanos ∧ nanos < 9223372036854775808 * 1000000000 then
    some ⟨nanos, h.1, h.2⟩
  else none

/-- The seconds since the epoch, rounded towards the past. -/
def secs (t : Timestamp) : Int := t.nanos / 1000000000

/-- The nanoseconds past `secs`. -/
def subsecNanos (t : Timestamp) : Nat := (t.nanos % 1000000000).toNat

/-- The point a length of time later, if it is in range. -/
def add? (t : Timestamp) (d : Duration) : Option Timestamp := ofNanos? (t.nanos + d.nanos)

/-- The time from `earlier` to `t`, and none at all if `t` comes first. -/
def since (t earlier : Timestamp) : Duration where
  nanos := (t.nanos - earlier.nanos).toNat
  nanos_lt := by
    have := t.upper
    have := earlier.lower
    omega

/-- Whether the point lies before the epoch. -/
def beforeEpoch (t : Timestamp) : Bool := t.nanos < 0

end Timestamp

end InstancedZones
