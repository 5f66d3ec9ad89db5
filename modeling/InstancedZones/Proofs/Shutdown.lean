import InstancedZones.Proofs.BackReference
import InstancedZones.Proofs.Shift

/-!
# Shutting down

A service that is told to shut down closes every open instance, in the order of their
identities, and has stopped; the same happens when nobody is left who could send
requests. Because the two sides of membership agree before it, and the notes of the
world agree with them, nobody is left behind: no instance is open, no player is in one,
and no player is noted as being in one, `ClosedDown`.

`Shift.served` puts this together with what the service has done until then and with
what it does afterwards, which is nothing. What waits in the queue behind the command
is turned away. Pausing and resuming the sweep are the exception: they have no reply,
so whoever sent them has been told that they are done as soon as they were queued,
although they never are (`Shift.pause_behind_shutdown`).
-/

namespace InstancedZones

namespace Service

/-- **Everything has been closed**: what was open before, with reports on it, and a
service that has stopped. -/
structure ClosedDown (before : Registry) (reports : List CloseReport)
    (after : Service MemoryWorld) : Prop where
  /-- There are reports on the instances that were open. -/
  reported : ∀ id, id ∈ reports.map CloseReport.id ↔ id ∈ before.instances
  /-- They come in the order of the identities, one on each. -/
  ascending : (reports.map CloseReport.id).Pairwise (·.number < ·.number)
  /-- The reason is always the same. -/
  reasons : ∀ report ∈ reports, report.reason = shutdownReason
  /-- The service has stopped. -/
  stopped : after.running = false
  /-- No instance is open. -/
  noInstances : after.realm.registry.instances = ∅
  /-- No player is in one. -/
  noMembers : after.realm.registry.members = ∅
  /-- No player is noted as being in one. -/
  noNotes : ∀ q, after.realm.world.instanceOf q = none

/-- **Shutting down closes everything** if the registry is consistent and the notes of
the world agree with it. -/
theorem closedDown {s : Service MemoryWorld} (hconsistent : s.realm.registry.Consistent)
    (hagree : s.realm.NotesAgree) :
    ClosedDown s.realm.registry (closeAll.run s.realm).answer
      { s with realm := (closeAll.run s.realm).state, running := false } := by
  obtain ⟨hanswer, hstate⟩ := run_closeAll s.realm
  have hcleared := Realm.cleared_closeEach hconsistent.tallied shutdownReason
    s.realm.registry.nodup_ids
  have hconsistent' := Realm.stepsKeep_consistent.closeEach shutdownReason s.realm.registry.ids
    s.realm hconsistent
  have hagree' := Realm.stepsKeep_notesAgree.closeEach shutdownReason s.realm.registry.ids
    s.realm hagree
  rw [← hanswer, ← hstate] at hcleared
  rw [← hstate] at hconsistent' hagree'
  have hids := hcleared.reported_all fun id hid => Registry.mem_ids.mp hid
  have hclosed : ∀ id, id ∉ (closeAll.run s.realm).state.registry.instances := fun id hid =>
    ((hcleared.remaining id).mp hid).2 (Registry.mem_ids.mpr ((hcleared.remaining id).mp hid).1)
  have hnobody : ∀ q, (closeAll.run s.realm).state.registry.instanceOf q = none := fun q => by
    cases hin : (closeAll.run s.realm).state.registry.instanceOf q with
    | none => rfl
    | some id => exact absurd (hconsistent'.mem_of_instanceOf hin) (hclosed id)
  refine ⟨fun id => ?_, ?_, hcleared.reasons, rfl, ?_, ?_, fun q => ?_⟩
  · rw [hids, Registry.mem_ids]
  · rw [hids]
    exact s.realm.registry.ordered_ids
  · exact Std.ExtTreeMap.eq_empty_iff_forall_not_mem.mpr hclosed
  · refine Std.ExtTreeMap.eq_empty_iff_forall_not_mem.mpr fun q hq => ?_
    obtain ⟨id, hid⟩ := Option.isSome_iff_exists.mp (Std.ExtTreeMap.mem_iff_isSome_getElem?.mp hq)
    exact Option.some_ne_none id (hid.symm.trans (hnobody q))
  · exact (hagree' q).trans (hnobody q)

theorem answer_request_of_stopped {W α : Type} [World W] {s : Service W} (q : Request W α)
    (hstopped : s.running = false) : ((request q).run s).answer = .error .unavailable := by
  unfold request
  rw [Action.run_bind_of_run (Action.run_get s), hstopped]
  rfl

/-- Without anybody to send requests the service does what it does when told to. -/
theorem state_abandon {W : Type} [World W] {s : Service W} (hrunning : s.running = true) :
    (abandon.run s).state = ((perform .shutdown).run s).state := by
  unfold abandon
  rw [Action.run_bind_of_run (Action.run_get s), if_pos hrunning]
  rfl

/-- **The service serves its commands in turn, and shuts down cleanly.** A service that
starts with a new registry and without notes goes on until it is told to shut down or
its sweep is spent. As long as it goes on, it has done what the operations alone do, and
each reply is the answer of its operation in the state that the operations before it
have left. Told to shut down, it replies with reports on all open instances and
everything has been closed, and so it has if nobody is left to send requests. From then
on it does nothing, turns away what waits in the queue, and is unavailable for whatever
is sent. -/
theorem Shift.served {t : TemplateSettings} {first s : Service MemoryWorld} {log : List Deed}
    (shift : Shift first log s) (started : first.running = true)
    (fresh : first.realm.registry = .ofSettings t)
    (clear : ∀ q, first.realm.world.instanceOf q = none) :
    (s.running = true ∨ (∃ now answer, .handled .shutdown now answer ∈ log) ∨
      s.sweep.isSpent = true) ∧
    (s.running = true →
      s.realm = alone first.realm log ∧
      (∀ before c now answer after x, log = before ++ .handled c now answer :: after →
        c.operation? now = some x →
        answer = replied (x.run (alone first.realm before)).answer) ∧
      ∃ reports ended,
        ended = ((handle (.command .shutdown : Request MemoryWorld Empty)).run s).state ∧
        ((handle (.command .shutdown : Request MemoryWorld Empty)).run s).answer
          = .ok (.reply (.reports reports)) ∧
        ClosedDown s.realm.registry reports ended ∧
        (abandon.run s).state = ended ∧
        ∀ log' s', Shift ended log' s' →
          s'.realm = ended.realm ∧
          (∀ deed ∈ log', ∃ c now, deed = .handled c now (turnedAway c)) ∧
          ∀ q : Request MemoryWorld Empty, ((request q).run s').answer = .error .unavailable) := by
  refine ⟨shift.running_or started, fun hrunning => ⟨shift.realm_eq_alone hrunning, ?_, ?_⟩⟩
  · intro before c now answer after x hlog hx
    exact shift.answer_eq_alone hrunning hlog hx
  · have hconsistent : s.realm.registry.Consistent := by
      refine shift.keeps Realm.stepsKeep_consistent ?_
      rw [fresh]
      exact Registry.consistent_ofSettings t
    have hagree : s.realm.NotesAgree := by
      refine shift.keeps Realm.stepsKeep_notesAgree fun q => ?_
      rw [clear q, fresh]
      simp [Registry.instanceOf, Registry.ofSettings]
    obtain ⟨hanswer, hstate⟩ := run_handle_of_running (α := Empty) .shutdown hrunning
    refine ⟨_, _, rfl, hanswer, ?_, ?_, fun log' s' shift' => ?_⟩
    · rw [hstate]
      exact closedDown hconsistent hagree
    · rw [hstate]
      exact state_abandon hrunning
    · obtain ⟨hstopped, hrealm, hlog⟩ := shift'.stopped (by rw [hstate]; rfl)
      exact ⟨hrealm, hlog, fun q => answer_request_of_stopped q hstopped⟩

/-- A plain instance is opened, a party of three comes in, and the sweep finds nothing to
close. Then the service is told to shut down: there is a report on the instance, and the
third player, who was noted as being in it, is not any more. -/
theorem Shift.trio_served :
    ∃ log s ended, Shift (Service.start .usual MemoryWorld.trio .epoch) log s ∧
      log.length = 3 ∧ s.realm.world.instanceOf ⟨3⟩ = some ⟨1⟩ ∧
      ended = ((handle (.command .shutdown : Request MemoryWorld Empty)).run s).state ∧
      ended.realm.registry.instances = ∅ ∧ ended.realm.world.instanceOf ⟨3⟩ = none := by
  have started : Shift (Service.start .usual MemoryWorld.trio .epoch) [] _ := .start
  have opened := started.command (.create .plain) (by
    rintro - _ ⟨⟩ _ _
    exact ⟨0, by decide +kernel⟩)
  have entered := opened.command (.bindParty ⟨1⟩ ⟨1⟩) (by rintro - _ ⟨⟩; trivial)
  have due : ((Ticker.wake 5000000000 0).run
      (Service.start .usual MemoryWorld.trio .epoch).sweep).answer = some ⟨1, 0, 0⟩ := by
    decide +kernel
  have shift := (entered.time .epoch 5000000000 (Nat.zero_le _)).sweep rfl due
  obtain ⟨-, hserved⟩ := shift.served rfl rfl MemoryWorld.instanceOf_trio
  obtain ⟨-, -, reports, ended, hended, -, hclosed, -⟩ := hserved (by decide +kernel)
  exact ⟨_, _, ended, shift, rfl, by decide +kernel, hended, hclosed.noInstances,
    hclosed.noNotes ⟨3⟩⟩

/-- **Not everything behind a shutdown is told so**: a service is told to shut down with a
request to pause the sweep in its queue. The sweep is not paused, and yet the request
counts as done. -/
theorem Shift.pause_behind_shutdown :
    ∃ s : Service MemoryWorld,
      Shift (Service.start .usual MemoryWorld.trio .epoch)
        [.handled .shutdown .epoch (.ok (.reply (.reports []))),
          .handled .pauseSweep .epoch (.ok (.reply .done))] s ∧
      s.running = false ∧ s.sweep.paused = false := by
  have started : Shift (Service.start .usual MemoryWorld.trio .epoch) [] _ := .start
  have ended := started.command .shutdown (by rintro - _ ⟨⟩)
  exact ⟨_, ended.command .pauseSweep (by rintro - _ ⟨⟩), rfl, rfl⟩

end Service

end InstancedZones
