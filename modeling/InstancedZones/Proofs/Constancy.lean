import InstancedZones.Proofs.Identities

/-!
# An open instance stays as its blueprint made it

Of the record of an open instance only the players ever change. An instance is opened
under an identity that no open instance has, so none is overwritten; players who come and
go change nothing else in it; and closing it is reported. Hence an instance that has been
opened, and on which there has been no report since, is open, and but for its players its
record is the one that the blueprint gave it at the time, `Run.open_as_planned`.

What the identity was used for before plays no part: identities may have come round.
-/

namespace InstancedZones

namespace Registry

/-- **The instance is open, and as it was made** but for its players. -/
def Holds (r : Registry) (id : InstanceId) (made : Instance) : Prop :=
  ∃ players, r.instances[id]? = some { made with players }

variable {r : Registry} {id j : InstanceId} {made i : Instance} {player : PlayerId}

namespace Holds

theorem mem (h : r.Holds id made) : id ∈ r.instances := by
  obtain ⟨players, hi⟩ := h
  exact mem_instances_iff.mpr ⟨_, hi⟩

theorem enroll (h : r.Holds id made) : (r.enroll player j).Holds id made := by
  obtain ⟨players, hi⟩ := h
  unfold Holds
  rw [getElem?_enroll, hi]
  split
  · exact ⟨players.insert player, rfl⟩
  · exact ⟨players, rfl⟩

theorem withdraw (h : r.Holds id made) : (r.withdraw player j).Holds id made := by
  obtain ⟨players, hi⟩ := h
  unfold Holds
  rw [getElem?_withdraw, hi]
  split
  · exact ⟨players.erase player, rfl⟩
  · exact ⟨players, rfl⟩

theorem add (h : r.Holds id made) (hne : i.id ≠ id) : (r.add i).Holds id made := by
  obtain ⟨players, hi⟩ := h
  exact ⟨players, by rw [getElem?_add, if_neg hne, hi]⟩

theorem dissolve (h : r.Holds id made) (hne : i.id ≠ id) : (r.dissolve i).Holds id made := by
  obtain ⟨players, hi⟩ := h
  exact ⟨players, by rw [getElem?_dissolve, if_neg hne, hi]⟩

end Holds

/-- **Players who come and go leave an instance as it was made.** -/
theorem visitsKeep_holds (id : InstanceId) (made : Instance) :
    VisitsKeep fun r : Registry => r.Holds id made where
  enroll h _ := h.enroll
  withdraw h _ := h.withdraw
  templates h _ := h

end Registry

namespace Realm

variable {W : Type} [World W] {realm : Realm W} {id j : InstanceId} {made : Instance}
  {reason : String}

/-! ## Opening and closing others -/

/-- What is opened is opened under an identity that was free. -/
theorem freeId_notMem_of_created {b : Blueprint} {now : Timestamp}
    (returns : (Call.create b now).Returns realm)
    (h : ((create b now).run realm).answer = .ok id) :
    realm.registry.freeId ∉ realm.registry.instances := by
  unfold create at h
  rw [Action.run_bind] at h
  cases hready : ((readyTemplate b.mapTemplate).run realm).answer with
  | error refusal =>
    rw [hready] at h
    cases h
  | ok status => exact Registry.freeId_notMem (returns status hready)

/-- Opening an instance leaves those that are open as they were made. -/
theorem holds_create {b : Blueprint} {now : Timestamp} (h : realm.registry.Holds id made)
    (returns : (Call.create b now).Returns realm) :
    ((create b now).run realm).state.registry.Holds id made := by
  rcases create_cases b now realm with ⟨_, -, hsame⟩ | ⟨hanswer, cache, hnew⟩
  · rw [hsame]
    exact h
  · rw [hnew]
    have hcache : Registry.Holds { realm.registry with templates := cache } id made := h
    refine hcache.add fun heq => freeId_notMem_of_created returns hanswer ?_
    have hid : realm.registry.freeId = id := heq
    rw [hid]
    exact h.mem

/-- **Closing another instance** leaves an instance as it was made. -/
theorem keeps_holds_close (hne : j ≠ id) :
    (close j reason : Action (Realm W) _).Keeps fun realm =>
      realm.registry.Consistent ∧ realm.registry.Holds id made := by
  intro realm ⟨consistent, h⟩
  refine ⟨stepsKeep_consistent.close j reason realm consistent, ?_⟩
  rcases registry_close j reason realm with hsame | ⟨i, hi, hclosed⟩
  · rw [hsame]
    exact h
  · rw [hclosed]
    exact h.dissolve (consistent.own_id hi ▸ hne)

/-- **A sweep** leaves an instance whose end has not come as it was made. -/
theorem holds_sweepExpired {now : Timestamp} (consistent : realm.registry.Consistent)
    (h : realm.registry.Holds id made) (hleft : id ∉ realm.registry.expiredAt now) :
    ((sweepExpired now).run realm).state.registry.Holds id made := by
  have hclosing : (closeEach expiredReason (realm.registry.expiredAt now)
      : Action (Realm W) _).Keeps
        fun realm => realm.registry.Consistent ∧ realm.registry.Holds id made :=
    keeps_closeEach fun j hj => keeps_holds_close (ne_of_mem_of_not_mem hj hleft)
  rw [(run_sweepExpired now realm).2]
  exact (hclosing realm ⟨consistent, h⟩).2

end Realm

namespace Run

variable {W : Type} [World W] {drift : W → W → Prop} {s : TemplateSettings} {w : W}
  {log : List (Call × Except Refusal Reply)} {realm : Realm W} {id : InstanceId}
  {made : Instance}

theorem closed_append (log log' : List (Call × Except Refusal Reply)) :
    closed (log ++ log') = closed log ++ closed log' := by
  rw [closed, replies, List.filterMap_append, List.flatMap_append]
  rfl

/-! ## Calls and runs -/

/-- **A call that does not report an instance closed leaves it as it was made.** -/
theorem holds_perform (consistent : realm.registry.Consistent)
    (h : realm.registry.Holds id made) (c : Call) (returns : c.Returns realm)
    (hleft : id ∉ closed [(c, (c.perform.run realm).answer)]) :
    (c.perform.run realm).state.registry.Holds id made := by
  have visits : Realm.VisitsKeep fun realm : Realm W => realm.registry.Holds id made :=
    .ofRegistry (Registry.visitsKeep_holds id made)
  cases c with
  | create b now => exact Realm.holds_create h returns
  | bindPlayer player id => exact visits.bindPlayer player id realm h
  | bindParty leader id => exact visits.bindParty leader id realm h
  | teleportInto id player => exact visits.teleportInto id player realm h
  | playerLeave player => exact visits.playerLeave player realm h
  | close j reason =>
    by_cases hopen : j ∈ realm.registry.instances
    · obtain ⟨i, hi⟩ := Registry.mem_instances_iff.mp hopen
      obtain ⟨departures, w', events, hclose⟩ := Realm.run_close_of_open hi reason
      -- the report names the instance that was closed
      have hreported : closed [(Call.close j reason,
          ((Call.close j reason).perform.run realm).answer)] = [i.id] := by
        rw [Call.perform, Action.run_bind_pure, hclose]
        rfl
      rw [hreported, List.mem_singleton, consistent.own_id hi] at hleft
      exact (Realm.keeps_holds_close (Ne.symm hleft) realm ⟨consistent, h⟩).2
    · show ((Realm.close j reason).run realm).state.registry.Holds id made
      rw [Realm.run_close_of_notMem hopen]
      exact h
  | sweepExpired now =>
    have hreported : closed [(Call.sweepExpired now,
        ((Call.sweepExpired now).perform.run realm).answer)] = realm.registry.expiredAt now := by
      rw [← Realm.reported_sweepExpired consistent now]
      exact List.append_nil _
    rw [hreported] at hleft
    exact Realm.holds_sweepExpired consistent h hleft

/-- The instance that a call reports to have opened is held as its blueprint makes it. -/
theorem holds_of_created {b : Blueprint} {now : Timestamp}
    (h : ((Call.create b now).perform.run realm).answer = .ok (.created id)) :
    ((Call.create b now).perform.run realm).state.registry.Holds id (.ofBlueprint id b now) := by
  rw [Call.perform, Action.run_bind_pure] at h ⊢
  dsimp only at h ⊢
  rcases Realm.create_cases b now realm with ⟨refusal, hanswer, -⟩ | ⟨hanswer, cache, hnew⟩
  · rw [hanswer] at h
    cases h
  · rw [hanswer] at h
    cases h
    rw [hnew]
    exact ⟨∅, Registry.getElem?_add.trans (if_pos rfl)⟩

/-- **What has been opened and not been closed since is held as it was made.** -/
theorem holds_of_opened (run : Run drift ⟨.ofSettings s, w⟩ log realm)
    {before after : List (Call × Except Refusal Reply)} {b : Blueprint} {now : Timestamp}
    (created : log = before ++ (.create b now, .ok (.created id)) :: after)
    (hleft : id ∉ closed after) : realm.registry.Holds id (.ofBlueprint id b now) := by
  induction run generalizing after with
  | start => simp at created
  | drift _ _ ih => exact ih created hleft
  | call c earlier returns ih =>
    -- either this call opened the instance, or it came later and did not close it
    rcases List.eq_nil_or_concat after with rfl | ⟨after, entry, rfl⟩
    · obtain ⟨-, hentry⟩ := List.append_inj' created rfl
      obtain ⟨rfl, hanswer⟩ := Prod.mk.inj (List.cons.inj hentry).1
      exact holds_of_created hanswer
    · rw [List.concat_eq_append, ← List.cons_append, ← List.append_assoc] at created
      obtain ⟨hlog, hentry⟩ := List.append_inj' created rfl
      rw [List.concat_eq_append, closed_append, List.mem_append, not_or] at hleft
      rw [← hentry] at hleft
      exact holds_perform earlier.consistent (ih hlog hleft.1) c returns hleft.2

/-- **An open instance stays as its blueprint made it**, in every world and however it
goes on. Once a call has opened an instance, and as long as there is no report that it has
been closed, the instance is open, and its record is the one made from the blueprint at
the time of the call, but for its players. So the name, the exit, the entry, the level and
the end that it is dealt with by are those of the blueprint: it ends if it has a duration, so
many seconds after the call, unless the clock cannot show that moment. -/
theorem open_as_planned (run : Run drift ⟨.ofSettings s, w⟩ log realm)
    (before after : List (Call × Except Refusal Reply)) {b : Blueprint} {now : Timestamp}
    (created : log = before ++ (.create b now, .ok (.created id)) :: after)
    (hleft : id ∉ closed after) :
    ∃ i, realm.registry.instances[id]? = some i ∧
      i = { Instance.ofBlueprint id b now with players := i.players } ∧
      i.name = b.name ∧ i.exit = b.exit ∧ i.entry = b.entry ∧ i.minLevel = b.minLevel ∧
      i.endsAt = b.endsAt now ∧
      ∀ ending : Timestamp, i.endsAt = some ending
        ↔ b.durationSecs ≠ 0 ∧ ending.nanos = now.nanos + b.durationSecs.toNat * 1000000000 := by
  obtain ⟨players, hi⟩ := holds_of_opened run created hleft
  exact ⟨_, hi, rfl, rfl, rfl, rfl, rfl, rfl, fun _ => Blueprint.endsAt_eq_some_iff_nanos⟩

/-- An instance for players of level 20 is opened beside another, one of three comes in,
and the other is closed: the instance is still for players of level 20. -/
theorem second_of_trio_as_planned :
    ∃ log realm, Run (fun _ _ => False) ⟨.ofSettings .usual, MemoryWorld.trio⟩ log realm ∧
      log.map Prod.fst = [.create .plain .epoch,
        .create { Blueprint.plain with minLevel := 20 } .epoch, .bindPlayer ⟨3⟩ ⟨2⟩,
        .close ⟨1⟩ "done"] ∧
      ∃ i, realm.registry.instances[(⟨2⟩ : InstanceId)]? = some i ∧ i.minLevel = 20 ∧
        ⟨3⟩ ∈ i.players := by
  have opened := (opened_trio fun _ _ => False).call
    (.create { Blueprint.plain with minLevel := 20 } .epoch) fun _ _ => ⟨0, by decide +kernel⟩
  have run := (opened.call (.bindPlayer ⟨3⟩ ⟨2⟩) trivial).call (.close ⟨1⟩ "done") trivial
  obtain ⟨i, hi, -, -, -, -, hlevel, -⟩ := open_as_planned run [_] [_, _] rfl
    (show (⟨2⟩ : InstanceId) ∉ closed _ from by decide +kernel)
  obtain ⟨j, hj, hin⟩ :=
    Registry.isPlayerBound_iff.mp ((run.consistent.indexed ⟨3⟩ ⟨2⟩).mp rfl)
  obtain rfl := Option.some.inj (hi.symm.trans hj)
  exact ⟨_, _, run, rfl, i, hi, hlevel, hin⟩

end Run

end InstancedZones
