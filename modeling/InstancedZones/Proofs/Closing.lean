import InstancedZones.Proofs.Consistency
import InstancedZones.Proofs.Lifetime

/-!
# What closing does

An instance that is open is closed with a report on it and is dissolved; one that
is not open is not found, and nothing changes. The world has no say in either: it
decides only what became of the members.

Hence a list of instances without repeats, closed one after the other, leaves
exactly those open that are not on the list. There is one report on each of the
others, in the order of the list, and what the loop passes over it would have been
refused for. The expired instances are such a list, and so are all open ones.
-/

namespace InstancedZones

namespace Registry.Tallied

variable {r : Registry}

/-- The records name the identities they stand under, in the same order. -/
theorem map_id_values (h : r.Tallied) : r.instances.values.map Instance.id = r.ids := by
  rw [Table.values_eq_map_toList, ids, ← Std.ExtTreeMap.map_fst_toList_eq_keys, List.map_map]
  refine List.map_congr_left fun entry hentry => ?_
  exact h.own_id (Std.ExtTreeMap.mem_toList_iff_getElem?_eq_some.mp hentry)

/-- **The expired instances are some of the open ones**, in their order. -/
theorem expiredAt_sublist_ids (h : r.Tallied) (now : Timestamp) :
    (r.expiredAt now).Sublist r.ids := by
  rw [← h.map_id_values]
  exact List.filter_sublist.map Instance.id

/-- The expired instances are those whose record says so. -/
theorem mem_expiredAt (h : r.Tallied) {id : InstanceId} {now : Timestamp} :
    id ∈ r.expiredAt now ↔ ∃ i, r.instances[id]? = some i ∧ i.isExpired now = true := by
  have hvalue : ∀ i, i ∈ r.instances.values ↔ r.instances[i.id]? = some i := fun i => by
    rw [Table.values_eq_map_toList, List.mem_map]
    constructor
    · rintro ⟨⟨j, i⟩, hentry, rfl⟩
      have hi := Std.ExtTreeMap.mem_toList_iff_getElem?_eq_some.mp hentry
      rwa [← h.own_id hi] at hi
    · exact fun hi => ⟨(i.id, i), Std.ExtTreeMap.mem_toList_iff_getElem?_eq_some.mpr hi, rfl⟩
  simp only [expiredAt, List.mem_map, List.mem_filter, hvalue]
  constructor
  · rintro ⟨i, ⟨hi, hexpired⟩, rfl⟩
    exact ⟨i, hi, hexpired⟩
  · rintro ⟨i, hi, hexpired⟩
    obtain rfl := h.own_id hi
    exact ⟨i, ⟨hi, hexpired⟩, rfl⟩

end Registry.Tallied

namespace Registry

theorem mem_ids {r : Registry} {id : InstanceId} : id ∈ r.ids ↔ id ∈ r.instances :=
  Std.ExtTreeMap.mem_keys

theorem nodup_ids (r : Registry) : r.ids.Nodup := Std.ExtTreeMap.nodup_keys

theorem ordered_ids (r : Registry) : r.ids.Pairwise (·.number < ·.number) := by
  refine Std.ExtTreeMap.ordered_keys.imp fun {a b} h => ?_
  exact Std.compare_eq_lt.mp h

end Registry

namespace Realm

variable {W : Type} [World W] {realm : Realm W} {id j : InstanceId} {reason : String}

/-! ## One instance -/

/-- **Nothing is done about an instance that is not open.** -/
theorem run_close_of_notMem (h : id ∉ realm.registry.instances) :
    (close id reason).run realm = ⟨.error (.notFound id), realm, []⟩ := by
  unfold close
  rw [Action.run_bind_of_run (run_getRegistry realm), Std.ExtTreeMap.getElem?_eq_none h]
  rfl

/-- **An open instance is closed**: there is a report on it, and it is dissolved. -/
theorem run_close_of_open {i : Instance} (h : realm.registry.instances[id]? = some i)
    (reason : String) :
    ∃ departures w events, (close id reason).run realm
      = ⟨.ok (.ofDepartures i reason departures), ⟨realm.registry.dissolve i, w⟩, events⟩ := by
  unfold close
  rw [Action.run_bind_of_run (run_getRegistry realm), h]
  exact ⟨_, _, _, rfl⟩

/-! ## Several instances -/

theorem run_closeEach_cons_of_notMem (h : id ∉ realm.registry.instances) (ids : List InstanceId) :
    (closeEach reason (id :: ids)).run realm = (closeEach reason ids).run realm := by
  rw [closeEach, Action.run_bind_of_run (run_close_of_notMem h)]

theorem closeEach_cons_of_open {i : Instance} (h : realm.registry.instances[id]? = some i)
    (reason : String) (ids : List InstanceId) :
    ∃ departures w,
      ((closeEach reason (id :: ids)).run realm).answer
        = .ofDepartures i reason departures ::
            ((closeEach reason ids).run ⟨realm.registry.dissolve i, w⟩).answer ∧
      ((closeEach reason (id :: ids)).run realm).state
        = ((closeEach reason ids).run ⟨realm.registry.dissolve i, w⟩).state := by
  obtain ⟨departures, w, events, hclose⟩ := run_close_of_open h reason
  refine ⟨departures, w, ?_, ?_⟩
  · rw [closeEach, Action.run_bind, hclose]
    rfl
  · rw [closeEach, Action.run_bind, hclose]
    rfl

/-- **The instances of a list have been closed**, between one registry and another,
with reports on them. -/
structure Cleared (reason : String) (ids : List InstanceId) (before after : Registry)
    (reports : List CloseReport) : Prop where
  /-- One report on each that was open, in the order of the list. -/
  reported : reports.map CloseReport.id = ids.filter (before.instances.contains ·)
  /-- The reason is the one given. -/
  reasons : ∀ report ∈ reports, report.reason = reason
  /-- The others are still open. -/
  remaining : ∀ j, j ∈ after.instances ↔ j ∈ before.instances ∧ j ∉ ids
  /-- The counter is where it was. -/
  counter : after.nextId = before.nextId

/-- **Closing a list without repeats.** Each of its instances is still open, or still
not open, when its turn comes. -/
theorem cleared_closeEach (h : realm.registry.Tallied) (reason : String)
    {ids : List InstanceId} (hids : ids.Nodup) :
    Cleared reason ids realm.registry ((closeEach reason ids).run realm).state.registry
      ((closeEach reason ids).run realm).answer := by
  induction ids generalizing realm with
  | nil => exact ⟨rfl, by simp [closeEach], by simp [closeEach], rfl⟩
  | cons id ids ih =>
    obtain ⟨hid, hids⟩ := List.nodup_cons.mp hids
    by_cases hopen : id ∈ realm.registry.instances
    · obtain ⟨i, hi⟩ := Registry.mem_instances_iff.mp hopen
      obtain ⟨departures, w, hanswer, hstate⟩ := closeEach_cons_of_open hi reason ids
      have hown := h.own_id hi
      have rest := @ih ⟨realm.registry.dissolve i, w⟩ (h.dissolve hi) hids
      rw [hanswer, hstate]
      refine ⟨?_, ?_, fun j => ?_, rest.counter⟩
      · -- the rest of the list does not name the instance that has just been closed
        have hsame : ids.filter ((realm.registry.dissolve i).instances.contains ·)
            = ids.filter (realm.registry.instances.contains ·) := by
          refine List.filter_congr fun j hj => ?_
          rw [Bool.eq_iff_iff, Std.ExtTreeMap.contains_iff_mem, Std.ExtTreeMap.contains_iff_mem,
            Registry.mem_dissolve, hown]
          exact and_iff_right fun heq => hid (heq ▸ hj)
        rw [List.map_cons, rest.reported, hsame,
          List.filter_cons_of_pos (Std.ExtTreeMap.contains_iff_mem.mpr hopen)]
        exact congrArg (· :: _) hown
      · rintro report (_ | ⟨_, hmem⟩)
        · rfl
        · exact rest.reasons report hmem
      · rw [rest.remaining j, Registry.mem_dissolve, hown, List.mem_cons]
        tauto
    · have rest := ih h hids
      rw [run_closeEach_cons_of_notMem hopen]
      refine ⟨?_, rest.reasons, fun j => ?_, rest.counter⟩
      · rw [rest.reported,
          List.filter_cons_of_neg fun hmem => hopen (Std.ExtTreeMap.contains_iff_mem.mp hmem)]
      · rw [rest.remaining j, List.mem_cons]
        refine and_congr_right fun hj => ?_
        have hne : j ≠ id := fun heq => hopen (heq ▸ hj)
        rw [not_or, and_iff_right hne]

/-- If all of the list are open, there is a report on each. -/
theorem Cleared.reported_all {ids : List InstanceId} {before after : Registry}
    {reports : List CloseReport} (h : Cleared reason ids before after reports)
    (hopen : ∀ id ∈ ids, id ∈ before.instances) : reports.map CloseReport.id = ids := by
  rw [h.reported, List.filter_eq_self]
  exact fun id hid => Std.ExtTreeMap.contains_iff_mem.mpr (hopen id hid)

/-! ## The sweep -/

/-- **A sweep closes the expired instances**, with one report on each. -/
theorem cleared_sweepExpired (h : realm.registry.Tallied) (now : Timestamp) :
    Cleared expiredReason (realm.registry.expiredAt now) realm.registry
      ((sweepExpired now).run realm).state.registry ((sweepExpired now).run realm).answer := by
  obtain ⟨hanswer, hstate⟩ := run_sweepExpired now realm
  rw [hanswer, hstate]
  exact cleared_closeEach h expiredReason
    (realm.registry.nodup_ids.sublist (h.expiredAt_sublist_ids now))

/-- The reports of a sweep are on the expired instances. -/
theorem reported_sweepExpired (h : realm.registry.Tallied) (now : Timestamp) :
    ((sweepExpired now).run realm).answer.map CloseReport.id = realm.registry.expiredAt now :=
  (cleared_sweepExpired h now).reported_all fun _ hid =>
    Registry.mem_ids.mp ((h.expiredAt_sublist_ids now).subset hid)

end Realm

end InstancedZones
