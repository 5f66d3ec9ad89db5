import InstancedZones.Proofs.Collections
import InstancedZones.Registry.Teleport

/-!
# What the changes of a registry do to its lookups

A registry is changed in four ways: a player is enrolled or withdrawn, an
instance is added or dissolved. Each is described here by what it does to the
lookups that everything else goes by: the record of an instance, the instance of
a player, and whether an instance lists a player.
-/

namespace InstancedZones.Registry

variable {r : Registry} {player q : PlayerId} {id j : InstanceId} {i k : Instance}

/-- An instance lists a player if it is open and has the player in its set. -/
theorem isPlayerBound_iff :
    r.isPlayerBound player id = true
      ↔ ∃ i, r.instances[id]? = some i ∧ player ∈ i.players := by
  unfold isPlayerBound
  cases r.instances[id]? <;> simp

theorem mem_instances_iff : id ∈ r.instances ↔ ∃ i, r.instances[id]? = some i := by
  rw [Std.ExtTreeMap.mem_iff_isSome_getElem?, Option.isSome_iff_exists]

/-- Only open instances list anybody. -/
theorem mem_of_isPlayerBound (h : r.isPlayerBound player id = true) : id ∈ r.instances := by
  obtain ⟨i, hi, -⟩ := isPlayerBound_iff.mp h
  exact mem_instances_iff.mpr ⟨i, hi⟩

/-! ## Enrolling -/

theorem getElem?_enroll :
    (r.enroll player id).instances[j]?
      = if id = j then r.instances[j]?.map fun i => { i with players := i.players.insert player }
        else r.instances[j]? := by
  rw [enroll, Table.getElem?_modify]

/-- Of the record of an instance, enrolling changes the players at most. -/
theorem of_getElem?_enroll (h : (r.enroll player id).instances[j]? = some k) :
    ∃ players, r.instances[j]? = some { k with players } := by
  rw [getElem?_enroll] at h
  split at h
  · obtain ⟨before, hbefore, rfl⟩ := Option.map_eq_some_iff.mp h
    exact ⟨before.players, hbefore⟩
  · exact ⟨k.players, h⟩

@[simp] theorem mem_enroll : j ∈ (r.enroll player id).instances ↔ j ∈ r.instances :=
  Std.ExtTreeMap.mem_modify

@[simp] theorem instanceOf_enroll :
    (r.enroll player id).instanceOf q = if player = q then some id else r.instanceOf q := by
  rw [instanceOf, enroll, Table.getElem?_insert, instanceOf]

/-- **Enrolling lists the player in the instance**, if it is open, and leaves all
other entries as they are. -/
theorem isPlayerBound_enroll :
    (r.enroll player id).isPlayerBound q j = true
      ↔ r.isPlayerBound q j = true ∨ (player = q ∧ id = j ∧ id ∈ r.instances) := by
  rw [isPlayerBound_iff, isPlayerBound_iff, getElem?_enroll, mem_instances_iff]
  by_cases hj : id = j
  · subst hj
    cases r.instances[id]? <;> simp [or_comm]
  · simp [hj]

/-! ## Withdrawing -/

theorem getElem?_withdraw :
    (r.withdraw player id).instances[j]?
      = if id = j then r.instances[j]?.map fun i => { i with players := i.players.erase player }
        else r.instances[j]? := by
  rw [withdraw, Table.getElem?_modify]

/-- Of the record of an instance, withdrawing changes the players at most. -/
theorem of_getElem?_withdraw (h : (r.withdraw player id).instances[j]? = some k) :
    ∃ players, r.instances[j]? = some { k with players } := by
  rw [getElem?_withdraw] at h
  split at h
  · obtain ⟨before, hbefore, rfl⟩ := Option.map_eq_some_iff.mp h
    exact ⟨before.players, hbefore⟩
  · exact ⟨k.players, h⟩

@[simp] theorem mem_withdraw : j ∈ (r.withdraw player id).instances ↔ j ∈ r.instances :=
  Std.ExtTreeMap.mem_modify

@[simp] theorem instanceOf_withdraw :
    (r.withdraw player id).instanceOf q = if player = q then none else r.instanceOf q := by
  rw [instanceOf, withdraw, Table.getElem?_erase, instanceOf]

/-- **Withdrawing takes the player off the list of the instance**, and leaves all
other entries as they are. -/
theorem isPlayerBound_withdraw :
    (r.withdraw player id).isPlayerBound q j = true
      ↔ r.isPlayerBound q j = true ∧ ¬ (player = q ∧ id = j) := by
  rw [isPlayerBound_iff, isPlayerBound_iff, getElem?_withdraw]
  by_cases hj : id = j
  · subst hj
    cases r.instances[id]? <;> simp [and_comm]
  · simp [hj]

/-! ## Adding -/

theorem getElem?_add :
    (r.add i).instances[j]? = if i.id = j then some i else r.instances[j]? := by
  rw [add, Table.getElem?_insert]

/-- An instance after adding is the new one or was there before. -/
theorem of_getElem?_add (h : (r.add i).instances[j]? = some k) :
    (i.id = j ∧ i = k) ∨ r.instances[j]? = some k := by
  rw [getElem?_add] at h
  split at h
  · next hj => exact .inl ⟨hj, Option.some.inj h⟩
  · exact .inr h

@[simp] theorem mem_add : j ∈ (r.add i).instances ↔ i.id = j ∨ j ∈ r.instances := by
  rw [add, Std.ExtTreeMap.mem_insert, Std.LawfulEqCmp.compare_eq_iff_eq]

@[simp] theorem instanceOf_add : (r.add i).instanceOf q = r.instanceOf q := rfl

/-- **Adding an instance without players** under a free identity changes no
list. -/
theorem isPlayerBound_add (hfree : i.id ∉ r.instances) (hempty : i.players = ∅) :
    (r.add i).isPlayerBound q j = r.isPlayerBound q j := by
  rw [Bool.eq_iff_iff, isPlayerBound_iff, isPlayerBound_iff, getElem?_add]
  by_cases hj : i.id = j
  · subst hj
    rw [Std.ExtTreeMap.getElem?_eq_none hfree]
    simp [hempty]
  · simp [hj]

/-! ## Dissolving -/

theorem getElem?_dissolve :
    (r.dissolve i).instances[j]? = if i.id = j then none else r.instances[j]? := by
  rw [dissolve, remove, Table.getElem?_erase]

/-- An instance after dissolving was there before. -/
theorem of_getElem?_dissolve (h : (r.dissolve i).instances[j]? = some k) :
    r.instances[j]? = some k := by
  rw [getElem?_dissolve] at h
  split at h
  · cases h
  · exact h

@[simp] theorem mem_dissolve : j ∈ (r.dissolve i).instances ↔ i.id ≠ j ∧ j ∈ r.instances := by
  rw [dissolve, remove, Std.ExtTreeMap.mem_erase, ne_eq, Std.LawfulEqCmp.compare_eq_iff_eq]

/-- **Dissolving an instance** takes exactly its players out of the index. -/
@[simp] theorem instanceOf_dissolve :
    (r.dissolve i).instanceOf q = if q ∈ i.players then none else r.instanceOf q := by
  rw [instanceOf, dissolve, remove, Table.getElem?_foldl_erase, instanceOf]
  simp only [Std.ExtTreeSet.mem_toList]

theorem isPlayerBound_dissolve :
    (r.dissolve i).isPlayerBound q j = true ↔ r.isPlayerBound q j = true ∧ i.id ≠ j := by
  rw [isPlayerBound_iff, isPlayerBound_iff, getElem?_dissolve]
  by_cases hj : i.id = j <;> simp [hj]

end InstancedZones.Registry
