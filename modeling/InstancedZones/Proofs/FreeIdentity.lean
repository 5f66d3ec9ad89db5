import InstancedZones.Registry.Basic
import Mathlib.Data.List.Nodup
import Mathlib.Data.List.Perm.Subperm
import Mathlib.Logic.Function.Iterate

/-!
# The search for a free identity

A new instance is given the first identity, from the counter on, that no open
instance has. The search follows `InstanceId.next` and stops at the first free
identity; it never stops if it comes round without having met one. What the
registry computes looks at one more identity than there are instances, and that
is enough whenever the search stops at all: if so many identities in a row are
taken, two of them are equal, the search is going in circles, and every
identity on its way is taken.
-/

namespace InstancedZones.Registry

/-- **The search for a free identity stops**: some identity from the counter on
is free. -/
def HasFreeId (r : Registry) : Prop := ∃ n, InstanceId.next^[n] r.nextId ∉ r.instances

/-- **What the bounded search finds**: it has stepped over `k` identities that
are taken, and the one it comes to is free unless the bound has been used up. -/
theorem firstFree_eq_iterate (r : Registry) (fuel : Nat) (id : InstanceId) :
    ∃ k ≤ fuel, r.firstFree fuel id = InstanceId.next^[k] id ∧
      (∀ j < k, InstanceId.next^[j] id ∈ r.instances) ∧
      (k < fuel → InstanceId.next^[k] id ∉ r.instances) := by
  induction fuel generalizing id with
  | zero => exact ⟨0, Nat.le_refl 0, rfl, by simp, by simp⟩
  | succ fuel ih =>
    by_cases hid : id ∈ r.instances
    · obtain ⟨k, hk, hfound, htaken, hfree⟩ := ih id.next
      refine ⟨k + 1, by omega, ?_, ?_, fun h => hfree (by omega)⟩
      · rw [firstFree, if_pos (Std.ExtTreeMap.contains_iff_mem.mpr hid), hfound]
        rfl
      · intro j hj
        cases j with
        | zero => exact hid
        | succ j => exact htaken j (by omega)
    · refine ⟨0, by omega, ?_, by simp, fun _ => hid⟩
      rw [firstFree, if_neg (fun h => hid (Std.ExtTreeMap.contains_iff_mem.mp h))]
      rfl

/-- A walk that is back at an identity it has left stays among those it has
seen. -/
theorem mem_of_cycle {r : Registry} {id : InstanceId} {a b : Nat} (hab : a < b)
    (hcycle : InstanceId.next^[a] id = InstanceId.next^[b] id)
    (htaken : ∀ j < b, InstanceId.next^[j] id ∈ r.instances) (n : Nat) :
    InstanceId.next^[n] id ∈ r.instances := by
  induction n using Nat.strongRecOn with
  | ind n ih =>
    by_cases hn : n < b
    · exact htaken n hn
    · -- one round earlier the walk was at the same identity
      have hround : InstanceId.next^[n] id = InstanceId.next^[n - (b - a)] id := by
        rw [show n = (n - b) + b by omega, Function.iterate_add_apply, ← hcycle,
          ← Function.iterate_add_apply]
        congr 1
        omega
      rw [hround]
      exact ih _ (by omega)

/-- Among one more identity than there are instances, two are equal or one is
free. -/
theorem exists_cycle {r : Registry} {id : InstanceId}
    (htaken : ∀ j ≤ r.instances.size, InstanceId.next^[j] id ∈ r.instances) :
    ∃ a b, a < b ∧ b ≤ r.instances.size ∧ InstanceId.next^[a] id = InstanceId.next^[b] id := by
  by_contra hne
  push Not at hne
  set walk := (List.range (r.instances.size + 1)).map fun j => InstanceId.next^[j] id with hwalk
  have hnodup : walk.Nodup := by
    refine List.Nodup.map_on (fun a ha b hb hab => ?_) List.nodup_range
    rw [List.mem_range] at ha hb
    rcases Nat.lt_trichotomy a b with h | h | h
    · exact absurd hab (hne a b h (by omega))
    · exact h
    · exact absurd hab.symm (hne b a h (by omega))
  have hsub : walk ⊆ r.instances.keys := by
    intro x hx
    obtain ⟨j, hj, rfl⟩ := List.mem_map.mp hx
    rw [List.mem_range] at hj
    exact Std.ExtTreeMap.mem_keys.mpr (htaken j (by omega))
  have hle := (hnodup.subperm hsub).length_le
  rw [hwalk, List.length_map, List.length_range, Std.ExtTreeMap.length_keys] at hle
  omega

/-- **The identity handed out is free** whenever the search stops. -/
theorem freeId_notMem {r : Registry} (h : r.HasFreeId) : r.freeId ∉ r.instances := by
  obtain ⟨n, hn⟩ := h
  obtain ⟨k, hk, hfound, htaken, hfree⟩ := r.firstFree_eq_iterate r.instances.size r.nextId
  rw [freeId, hfound]
  intro hmem
  have hfuel : k = r.instances.size := by
    by_contra hne
    exact hfree (by omega) hmem
  -- the bound is used up, so the search has gone in a circle
  have hall : ∀ j ≤ r.instances.size, InstanceId.next^[j] r.nextId ∈ r.instances := by
    intro j hj
    rcases Nat.lt_or_ge j k with h | h
    · exact htaken j h
    · rw [show j = k by omega]
      exact hmem
  obtain ⟨a, b, hab, hb, hcycle⟩ := exists_cycle hall
  exact hn (mem_of_cycle hab hcycle (fun j hj => hall j (by omega)) n)

/-- If the counter itself is free, nothing is stepped over. -/
theorem freeId_of_notMem {r : Registry} (h : r.nextId ∉ r.instances) : r.freeId = r.nextId := by
  unfold freeId
  cases r.instances.size with
  | zero => rfl
  | succ fuel => rw [firstFree, if_neg fun hmem => h (Std.ExtTreeMap.contains_iff_mem.mp hmem)]

/-- Templates have no part in the search. -/
theorem firstFree_withTemplates (r : Registry) (cache : TemplateCache) (fuel : Nat)
    (id : InstanceId) : { r with templates := cache }.firstFree fuel id = r.firstFree fuel id := by
  induction fuel generalizing id with
  | zero => rfl
  | succ fuel ih =>
    rw [firstFree, firstFree, ih]

/-- The search never comes to zero, unless it starts there. -/
theorem firstFree_ne_zero (r : Registry) {id : InstanceId} (h : id.number ≠ 0) (fuel : Nat) :
    (r.firstFree fuel id).number ≠ 0 := by
  induction fuel generalizing id with
  | zero => exact h
  | succ fuel ih =>
    rw [firstFree]
    split
    · exact ih id.next_ne_zero
    · exact h

end InstancedZones.Registry
