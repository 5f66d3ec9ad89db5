import InstancedZones.Proofs.ClosingOrder
import InstancedZones.Proofs.Constancy

/-!
# A sweep closes what has expired, and nothing else

A sweep makes a list of the expired instances and closes them one after the other. The loop
would pass over a closing that was refused, but none is: nobody is in two instances, so
closing one leaves the next open and its members where they are. So there is a report on
each, in ascending order, and whoever is in none of them is left alone, `Realm.Swept`.
Afterwards nothing has expired, and sweeping once more at the same time does nothing.

Since the end of an instance never changes, a sweep in a history closes an instance exactly if
the end that its blueprint gave it has come, whichever way the clock was moved in between.
One that lasts for ever, or whose end the clock cannot show, is never closed by a sweep.
-/

namespace InstancedZones

namespace Realm

/-! ## The loop and the closings -/

/-- **The loop gives the reports of its closings**, without those that were refused. -/
theorem run_closeEach {W : Type} [World W] (reason : String) (ids : List InstanceId)
    (realm : Realm W) :
    ((closeEach reason ids).run realm).answer
        = ((ids.mapM fun id => close id reason).run realm).answer.filterMap Except.toOption ∧
      ((closeEach reason ids).run realm).state
        = ((ids.mapM fun id => close id reason).run realm).state := by
  induction ids generalizing realm with
  | nil =>
    rw [List.mapM_nil]
    exact ⟨rfl, rfl⟩
  | cons id rest ih =>
    obtain ⟨hanswer, hstate⟩ := ih ((close id reason).run realm).state
    rw [List.mapM_cons, closeEach, Action.run_bind, Action.run_bind, Action.run_bind_pure]
    dsimp only
    cases hclose : ((close id reason).run realm).answer with
    | error refusal => exact ⟨hanswer, hstate⟩
    | ok report => exact ⟨congrArg (report :: ·) hanswer, hstate⟩

variable {realm : Realm MemoryWorld} {now : Timestamp}

/-- **A sweep evacuates the expired instances.** -/
theorem evacuated_sweepExpired (tallied : realm.registry.Tallied) (now : Timestamp) :
    Evacuated (fun _ => expiredReason) (realm.registry.expiredAt now) realm
      ((sweepExpired now).run realm).state := by
  have hsublist := tallied.expiredAt_sublist_ids now
  rw [(run_sweepExpired now realm).2, (run_closeEach expiredReason _ realm).2]
  exact (evacuated_mapM tallied (fun _ => expiredReason)
    (realm.registry.nodup_ids.sublist hsublist)
    fun id hid => Registry.mem_ids.mp (hsublist.subset hid)).2

/-- Sweeping keeps a registry tallied. -/
theorem tallied_sweepExpired (tallied : realm.registry.Tallied) (now : Timestamp) :
    ((sweepExpired now).run realm).state.registry.Tallied := by
  rw [(run_sweepExpired now realm).2]
  exact keeps_closeEach (fun id _ => keeps_tallied_close id expiredReason) realm tallied

/-- A sweep that finds nothing does nothing. -/
theorem run_sweepExpired_of_nil (h : realm.registry.expiredAt now = []) :
    ((sweepExpired now).run realm).answer = [] ∧ ((sweepExpired now).run realm).state = realm := by
  obtain ⟨hanswer, hstate⟩ := run_sweepExpired now realm
  rw [hanswer, hstate, h]
  exact ⟨rfl, rfl⟩

/-- **After a sweep nothing has expired.** -/
theorem expiredAt_sweepExpired (tallied : realm.registry.Tallied) (now : Timestamp) :
    ((sweepExpired now).run realm).state.registry.expiredAt now = [] := by
  refine List.eq_nil_iff_forall_not_mem.mpr fun id hid => ?_
  obtain ⟨i, hi, hexpired⟩ := (tallied_sweepExpired tallied now).mem_expiredAt.mp hid
  rw [(evacuated_sweepExpired tallied now).instances id] at hi
  -- what is still open was not on the list, and its record is the same
  split at hi
  · cases hi
  · next hleft => exact hleft (tallied.mem_expiredAt.mpr ⟨i, hi, hexpired⟩)

/-- **What has expired has been closed by a sweep**, with these reports, between one realm and
another: the instances reported have been evacuated, and nothing else has happened. -/
structure Swept (now : Timestamp) (reports : List CloseReport) (realm realm' : Realm MemoryWorld) :
    Prop extends
    Evacuated (fun _ => expiredReason) (reports.map CloseReport.id) realm realm' where
  /-- The reports are on the open instances whose end has come. -/
  mem_reported : ∀ id, id ∈ reports.map CloseReport.id
    ↔ ∃ i ending, realm.registry.instances[id]? = some i ∧ i.endsAt = some ending ∧ ending ≤ now
  /-- They come in the order of the identities, one on each. -/
  ascending : (reports.map CloseReport.id).Pairwise (·.number < ·.number)
  /-- The reason is always the same. -/
  reasons : ∀ report ∈ reports, report.reason = "expired"
  /-- Nothing has expired any more. -/
  none_left : realm'.registry.expiredAt now = []
  /-- Sweeping once more does nothing. -/
  again : ((sweepExpired now).run realm').answer = [] ∧
    ((sweepExpired now).run realm').state = realm'

/-- **A sweep closes what has expired, and nothing else.** -/
theorem swept_sweepExpired (tallied : realm.registry.Tallied) (now : Timestamp) :
    Swept now ((sweepExpired now).run realm).answer realm ((sweepExpired now).run realm).state := by
  have hreported := reported_sweepExpired tallied now
  have hnone := expiredAt_sweepExpired tallied now
  refine ⟨?_, fun id => ?_, ?_, (cleared_sweepExpired tallied now).reasons, hnone,
    run_sweepExpired_of_nil hnone⟩
  · rw [hreported]
    exact evacuated_sweepExpired tallied now
  · rw [hreported, tallied.mem_expiredAt]
    simp only [Instance.isExpired_iff, exists_and_left]
  · rw [hreported]
    exact realm.registry.ordered_ids.sublist (tallied.expiredAt_sublist_ids now)

end Realm

namespace Run

variable {W : Type} [World W] {drift : W → W → Prop} {s : TemplateSettings} {w : W}
  {log before between after : List (Call × Except Refusal Reply)} {realm : Realm W}
  {b : Blueprint} {start now : Timestamp} {id : InstanceId} {reports : List CloseReport}

/-- **A sweep in a history** closes an instance that has been opened and not been closed since
exactly if the end that its blueprint gave it has come. -/
theorem mem_reported_iff (run : Run drift ⟨.ofSettings s, w⟩ log realm)
    (hlog : log = before ++ (.create b start, .ok (.created id)) :: between
      ++ (.sweepExpired now, .ok (.reports reports)) :: after)
    (hleft : id ∉ closed between) :
    id ∈ reports.map CloseReport.id
      ↔ ∃ ending, b.endsAt start = some ending ∧ ending ≤ now := by
  obtain ⟨mid, earlier, hanswer⟩ := run.exists_before hlog
  obtain ⟨players, hi⟩ := holds_of_opened earlier rfl hleft
  rw [Call.perform, Action.run_bind_pure] at hanswer
  obtain rfl : ((Realm.sweepExpired now).run mid).answer = reports :=
    Reply.reports.inj (Except.ok.inj hanswer)
  have tallied := earlier.consistent.tallied
  rw [Realm.reported_sweepExpired tallied, tallied.mem_expiredAt, hi]
  simp only [Option.some.injEq, exists_eq_left', Instance.isExpired_iff]
  rfl

end Run

/-- **Sweeps close exactly what has expired.** Over a world in memory a sweep of a registry that
is tallied closes the open instances whose end has come, with one report on each, in order, and
leaves everything else alone; after it nothing has expired. Over a history, in every world and
whichever way the clock is moved, a sweep closes an instance that has been opened and not been
closed since exactly if its blueprint has a duration, and the time it was opened at and the
duration make a time on the clock, and this has come. -/
theorem Run.sweeps_exactly_expired :
    (∀ realm : Realm MemoryWorld, realm.registry.Tallied → ∀ now,
      let sweep := (Realm.sweepExpired now).run realm
      Realm.Swept now sweep.answer realm sweep.state) ∧
    ∀ {W : Type} [World W] {drift : W → W → Prop} {s : TemplateSettings} {w : W}
      {log : List (Call × Except Refusal Reply)} {realm : Realm W},
      Run drift ⟨.ofSettings s, w⟩ log realm →
      ∀ before between after b start id now reports,
        log = before ++ (.create b start, .ok (.created id)) :: between
          ++ (.sweepExpired now, .ok (.reports reports)) :: after →
        id ∉ closed between →
        (id ∈ reports.map CloseReport.id
          ↔ b.durationSecs ≠ 0 ∧ ∃ ending,
              start.add? (.ofSecs b.durationSecs) = some ending ∧ ending ≤ now) := by
  refine ⟨fun realm tallied now => Realm.swept_sweepExpired tallied now, ?_⟩
  intro W _ drift s w log realm run before between after b start id now reports hlog hleft
  rw [mem_reported_iff run hlog hleft]
  simp only [Blueprint.endsAt_eq_some_iff, and_assoc, exists_and_left]

/-- One of three is in an instance that lasts a minute, and there is another that lasts for ever.
A sweep at the start closes neither, and a sweep after a minute closes the first. -/
theorem Run.trio_swept_on_time :
    ∃ log realm reports, Run (fun _ _ => False) ⟨.ofSettings .usual, MemoryWorld.trio⟩ log realm ∧
      log.map Prod.fst = [.create { Blueprint.plain with durationSecs := 60 } .epoch,
        .create { Blueprint.plain with durationSecs := 0 } .epoch, .bindPlayer ⟨1⟩ ⟨1⟩,
        .sweepExpired .epoch, .sweepExpired ⟨60000000000, by decide, by decide⟩] ∧
      log.getLast?.map Prod.snd = some (.ok (.reports reports)) ∧
      ⟨1⟩ ∈ reports.map CloseReport.id ∧ ⟨2⟩ ∉ reports.map CloseReport.id ∧
      ∃ before, before.registry.Tallied ∧
        Realm.Swept ⟨60000000000, by decide, by decide⟩ reports before realm := by
  have opened : Run (fun _ _ => False) ⟨.ofSettings .usual, MemoryWorld.trio⟩ _ _ :=
    .call (.create { Blueprint.plain with durationSecs := 60 } .epoch) .start
      fun _ _ => ⟨0, by decide +kernel⟩
  have both := opened.call (.create { Blueprint.plain with durationSecs := 0 } .epoch)
    fun _ _ => ⟨0, by decide +kernel⟩
  have earlier := (both.call (.bindPlayer ⟨1⟩ ⟨1⟩) trivial).call (.sweepExpired .epoch) trivial
  have run := earlier.call (.sweepExpired ⟨60000000000, by decide, by decide⟩) trivial
  obtain ⟨hswept, hruns⟩ := sweeps_exactly_expired
  refine ⟨_, _, _, run, rfl, rfl, ?_, ?_, _, earlier.consistent.tallied,
    hswept _ earlier.consistent.tallied _⟩
  · refine (hruns run [] [_, _, _] [] _ _ ⟨1⟩ _ _ rfl (by decide +kernel)).mpr ?_
    exact ⟨by decide, _, rfl, by decide⟩
  · intro hreported
    obtain ⟨hlasts, -⟩ :=
      (hruns run [_] [_, _] [] _ _ ⟨2⟩ _ _ rfl (by decide +kernel)).mp hreported
    exact hlasts rfl

end InstancedZones
