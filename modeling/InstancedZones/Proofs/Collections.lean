import Mathlib.Data.List.Nodup
import Std.Data.ExtTreeMap
import Std.Data.ExtTreeSet

/-!
# Tables and lists

The tables of the registry and of the world in memory have keys that compare as
equal only if they are equal. For such tables the entry found after a change is
told by whether the key looked up *is* the key changed. The values of a table
come in the order of their keys.

A list whose repeats have been erased has none. What comes later in a list without
repeats is not what comes first.
-/

namespace InstancedZones

namespace Table

open Std

variable {κ β : Type} [Ord κ] [TransOrd κ] [LawfulEqOrd κ] [DecidableEq κ]

theorem getElem?_insert (t : ExtTreeMap κ β) (k k' : κ) (v : β) :
    (t.insert k v)[k']? = if k = k' then some v else t[k']? := by
  simp only [ExtTreeMap.getElem?_insert, LawfulEqCmp.compare_eq_iff_eq]

theorem getElem?_erase (t : ExtTreeMap κ β) (k k' : κ) :
    (t.erase k)[k']? = if k = k' then none else t[k']? := by
  simp only [ExtTreeMap.getElem?_erase, LawfulEqCmp.compare_eq_iff_eq]

theorem getElem?_modify (t : ExtTreeMap κ β) (k k' : κ) (f : β → β) :
    (t.modify k f)[k']? = if k = k' then t[k']?.map f else t[k']? := by
  simp only [ExtTreeMap.getElem?_modify, LawfulEqCmp.compare_eq_iff_eq]
  by_cases h : k = k' <;> simp [h]

theorem contains_insert (t : ExtTreeSet κ) (k k' : κ) :
    (t.insert k).contains k' = (decide (k = k') || t.contains k') := by
  rw [ExtTreeSet.contains_insert, beq_eq_decide]
  simp only [LawfulEqCmp.compare_eq_iff_eq]

/-- Erasing keys one after the other. -/
theorem getElem?_foldl_erase (keys : List κ) (t : ExtTreeMap κ β) (k : κ) :
    (keys.foldl ExtTreeMap.erase t)[k]? = if k ∈ keys then none else t[k]? := by
  induction keys generalizing t with
  | nil => simp
  | cons key rest ih =>
    rw [List.foldl_cons, ih, getElem?_erase]
    by_cases hrest : k ∈ rest
    · simp [hrest]
    · by_cases hkey : key = k
      · simp [hkey]
      · simp [hrest, hkey, Ne.symm hkey]

/-- Inserting keys one after the other, each with the value that belongs to it. -/
theorem getElem?_foldl_insert (keys : List κ) (f : κ → β) (t : ExtTreeMap κ β) (k : κ) :
    (keys.foldl (fun t key => t.insert key (f key)) t)[k]?
      = if k ∈ keys then some (f k) else t[k]? := by
  induction keys generalizing t with
  | nil => simp
  | cons key rest ih =>
    rw [List.foldl_cons, ih, getElem?_insert]
    by_cases hrest : k ∈ rest
    · simp [hrest]
    · by_cases hkey : key = k
      · simp [hkey]
      · simp [hrest, hkey, Ne.symm hkey]

omit [LawfulEqOrd κ] [DecidableEq κ] in
/-- The entries of a table, without their keys, are its values. -/
theorem values_eq_map_toList (t : ExtTreeMap κ β) : t.values = t.toList.map Prod.snd := by
  have hvalues : t.values = t.foldr (fun _ v rest => v :: rest) [] := by
    obtain ⟨⟨t⟩⟩ := t
    rfl
  rw [hvalues, ExtTreeMap.foldr_eq_foldr_toList, List.map_eq_foldr]

end Table

/-- What comes later is not the first, if that does not come again. -/
theorem notMem_singleton_of_mem {α : Type} {a b : α} {l : List α} (ha : a ∉ l) (hb : b ∈ l) :
    b ∉ [a] := by
  rw [List.mem_singleton]
  rintro rfl
  exact ha hb

/-- **Erasing repeats leaves none.** -/
theorem nodup_eraseDups {α : Type} [DecidableEq α] (l : List α) : l.eraseDups.Nodup := by
  induction hn : l.length using Nat.strongRecOn generalizing l with
  | ind n ih =>
    cases l with
    | nil => simp
    | cons a rest =>
      have hshorter : (rest.filter fun b => !b == a).length < n := by
        have hle := List.length_filter_le (fun b => !b == a) rest
        rw [← hn, List.length_cons]
        omega
      rw [List.eraseDups_cons, List.nodup_cons]
      exact ⟨by simp, ih _ hshorter _ rfl⟩

/-- **A set has as many elements as a list of them has without its repeats.** -/
theorem Table.size_eq_length_eraseDups {κ : Type} [Ord κ] [Std.TransOrd κ] [Std.LawfulEqOrd κ]
    [DecidableEq κ] {t : Std.ExtTreeSet κ} {l : List κ}
    (h : ∀ k, t.contains k = true ↔ k ∈ l) : t.size = l.eraseDups.length := by
  have hnodup : t.toList.Nodup := t.distinct_toList.imp fun hne heq =>
    hne (Std.LawfulEqCmp.compare_eq_iff_eq.mpr heq)
  have hperm := (List.perm_ext_iff_of_nodup hnodup (nodup_eraseDups l)).mpr fun k => by
    rw [Std.ExtTreeSet.mem_toList, List.mem_eraseDups, ← Std.ExtTreeSet.contains_iff_mem, h]
  rw [← Std.ExtTreeSet.length_toList, hperm.length_eq]

end InstancedZones
