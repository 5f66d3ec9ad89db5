import Std.Data.ExtTreeMap

/-!
# Positions

A tile of the shared world. The all-zero position stands for "not set": a
blueprint that leaves its exit there sends players to their home instead.
-/

namespace InstancedZones

/-- A tile: two coordinates and a floor. -/
structure Position where
  /-- The first coordinate on the floor. -/
  x : UInt16
  /-- The second coordinate on the floor. -/
  y : UInt16
  /-- The floor. -/
  z : UInt8
deriving DecidableEq, Repr

namespace Position

/-- The marker for a position that was not set. -/
def unset : Position := ⟨0, 0, 0⟩

instance : Inhabited Position := ⟨unset⟩

/-- The highest floor a player can stand on. -/
def maxFloor : UInt8 := 15

/-- Whether this is the marker for "not set". -/
def isUnset (p : Position) : Bool := p == unset

/-- Whether a player can be sent here: the position is set and its floor exists. -/
def isValid (p : Position) : Bool := !p.isUnset && p.z ≤ maxFloor

/-- How a position is written in reports. -/
def label (p : Position) : String := s!"({p.x}, {p.y}, {p.z})"

/-- A position as one number, which keeps different positions apart. -/
def rank (p : Position) : Nat := (p.x.toNat * 65536 + p.y.toNat) * 256 + p.z.toNat

theorem rank_injective {p q : Position} (h : p.rank = q.rank) : p = q := by
  have hy := p.y.toNat_lt
  have hz := p.z.toNat_lt
  have hy' := q.y.toNat_lt
  have hz' := q.z.toNat_lt
  simp only [rank] at h
  have ex : p.x = q.x := UInt16.toNat_inj.1 (by omega)
  have ey : p.y = q.y := UInt16.toNat_inj.1 (by omega)
  have ez : p.z = q.z := UInt8.toNat_inj.1 (by omega)
  cases p; cases q; simp_all

instance : Ord Position where
  compare p q := compare p.rank q.rank

instance : Std.TransOrd Position :=
  inferInstanceAs (Std.TransCmp (compareOn Position.rank))

instance : Std.LawfulEqOrd Position where
  eq_of_compare {p q} h := by
    have h : compare p.rank q.rank = .eq := h
    exact rank_injective (Std.LawfulEqCmp.eq_of_compare h)

end Position

end InstancedZones
