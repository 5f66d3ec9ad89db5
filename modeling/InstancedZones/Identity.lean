import Std.Data.ExtTreeMap
import Std.Data.ExtTreeSet

/-!
# Identities

Players and instances are named by 32-bit numbers of two different kinds. A
player's number is given from outside and lasts for good. An instance's
number is handed out by the registry: it starts at one, counts up, and comes
round to one again after the largest number, so zero never names an instance.

Both kinds are ordered by their number, which is what lets them key the
ordered maps of the registry: `lawful` instances below say that two
identities compare as equal exactly when they are equal.
-/

namespace InstancedZones

/-- The lasting identity of a player character. -/
structure PlayerId where
  /-- The number the player is known by. -/
  number : UInt32
deriving DecidableEq, Inhabited, Repr

/-- The identity of one open instance. -/
structure InstanceId where
  /-- The number the registry handed out. -/
  number : UInt32
deriving DecidableEq, Inhabited, Repr

namespace PlayerId

instance : Ord PlayerId where
  compare a b := compare a.number b.number

instance : Std.TransOrd PlayerId :=
  inferInstanceAs (Std.TransCmp (compareOn PlayerId.number))

instance : Std.LawfulEqOrd PlayerId where
  eq_of_compare {a b} h := by
    have h : compare a.number b.number = .eq := h
    cases a; cases b
    simpa using h

/-- How a player is named in reports. -/
def label (p : PlayerId) : String := s!"P-{p.number}"

end PlayerId

namespace InstanceId

instance : Ord InstanceId where
  compare a b := compare a.number b.number

instance : Std.TransOrd InstanceId :=
  inferInstanceAs (Std.TransCmp (compareOn InstanceId.number))

instance : Std.LawfulEqOrd InstanceId where
  eq_of_compare {a b} h := by
    have h : compare a.number b.number = .eq := h
    cases a; cases b
    simpa using h

/-- The first identity a new registry hands out. -/
def first : InstanceId := ⟨1⟩

/-- The identity after this one; the largest is followed by `first`. -/
def next (id : InstanceId) : InstanceId :=
  if id.number + 1 = 0 then first else ⟨id.number + 1⟩

/-- How an instance is named in reports. -/
def label (id : InstanceId) : String := s!"I-{id.number}"

/-- The successor in terms of numbers: one more, and one after the largest. -/
theorem next_number (id : InstanceId) :
    id.next.number.toNat = if id.number.toNat = 4294967295 then 1 else id.number.toNat + 1 := by
  have hlt := id.number.toNat_lt
  have hadd : (id.number + 1).toNat = (id.number.toNat + 1) % 4294967296 := by
    simp [UInt32.toNat_add]
  have hzero : id.number + 1 = 0 ↔ (id.number + 1).toNat = 0 := by
    rw [← UInt32.toNat_inj]; rfl
  unfold next
  by_cases h : id.number + 1 = 0
  · rw [if_pos h, if_pos (by rw [hzero, hadd] at h; omega)]
    rfl
  · rw [if_neg h, if_neg (by intro h'; rw [hzero, hadd, h'] at h; exact h rfl)]
    rw [hzero, hadd] at h
    change (id.number + 1).toNat = _
    omega

/-- No successor is zero. -/
theorem next_ne_zero (id : InstanceId) : id.next.number ≠ 0 := by
  intro h
  have h0 : id.next.number.toNat = 0 := by rw [h]; rfl
  rw [next_number] at h0
  split at h0 <;> omega

end InstanceId

end InstancedZones
