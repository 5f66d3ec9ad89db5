import InstancedZones.Proofs.Entering
import InstancedZones.Proofs.Merging

/-!
# The notes of the world agree with the registry

The world notes for each player the instance the player is in. The note and the
registry's index are two stores with two owners, and the operations write both:
whoever comes in is noted, whoever leaves or is sent away has the note taken
back, connected or not. If there are no notes to begin with and nobody else
writes any, the two agree on every player after every run,
`Run.note_eq_instanceOf`; so no player is ever left with a note of an instance
that is not open.
-/

namespace InstancedZones

namespace Realm

/-- **The world has noted for every player the instance of the index.** -/
def NotesAgree (realm : Realm MemoryWorld) : Prop :=
  ∀ q, realm.world.instanceOf q = realm.registry.instanceOf q

variable {realm : Realm MemoryWorld} {player q : PlayerId} {id : InstanceId}

/-! ## Sending members away -/

section Departures

variable (notes : PlayerId → Option InstanceId) (i : Instance) (notice : String)

theorem keeps_notes_leadOut (player : PlayerId) :
    (leadOut i player : Action MemoryWorld Bool).Keeps fun w => ∀ q, w.instanceOf q = notes q := by
  unfold leadOut
  split
  · refine (MemoryWorld.keeps_notes_relocate notes player i.exit true).bind fun outcome => ?_
    dsimp only
    split
    · exact (Action.keeps_record _).bind fun _ => Action.keeps_pure _
    · exact Action.keeps_pure _
  · exact Action.keeps_pure _

theorem keeps_notes_sendHome (player : PlayerId) (home : Position) :
    (sendHome i player home : Action MemoryWorld Unit).Keeps
      fun w => ∀ q, w.instanceOf q = notes q := by
  refine (MemoryWorld.keeps_notes_relocate notes player home false).bind fun outcome => ?_
  split
  · exact Action.keeps_record _
  · exact Action.keeps_pure _

/-- **A member who is sent away loses the note**, connected or not, and nobody
else does. -/
theorem instanceOf_evict (player q : PlayerId) (w : MemoryWorld) :
    ((evict i notice player).run w).state.instanceOf q
      = if player = q then none else w.instanceOf q := by
  simp only [evict, Action.run_bind, MemoryWorld.run_resolve]
  cases w.info? player with
  | none => exact MemoryWorld.instanceOf_noteInstance_none
  | some info =>
    -- up to the last step the notes are those from before
    have hout := keeps_notes_leadOut w.instanceOf i player w (fun _ => rfl)
    have hhome := keeps_notes_sendHome w.instanceOf i player info.home _ hout
    simp only [Action.run_bind]
    split <;> simp only [Action.run_bind, MemoryWorld.run_sendNotice, MemoryWorld.run_setInstance,
      Action.run_pure, MemoryWorld.instanceOf_noteInstance_none, MemoryWorld.instanceOf_notify]
    · rw [hhome q]
    · rw [hout q]

/-- **All members lose their notes.** -/
theorem instanceOf_evictAll (players : List PlayerId) (q : PlayerId) (w : MemoryWorld) :
    ((evictAll i notice players).run w).state.instanceOf q
      = if q ∈ players then none else w.instanceOf q := by
  induction players generalizing w with
  | nil => simp [evictAll]
  | cons player rest ih =>
    simp only [evictAll, Action.run_bind, Action.run_pure, ih, instanceOf_evict, List.mem_cons]
    by_cases hrest : q ∈ rest
    · simp [hrest]
    · by_cases hplayer : player = q
      · simp [hplayer]
      · simp [hrest, hplayer, Ne.symm hplayer]

end Departures

/-! ## Every building block keeps the agreement -/

theorem notesAgree_enter (h : NotesAgree realm) (hok : realm.verdict player id = .ok ()) :
    NotesAgree (realm.enter player id) := by
  intro q
  -- whoever is let in is connected, so there is a record for the note
  obtain ⟨seen, -, hseen, -⟩ := Registry.verdict_eq_ok_iff.mp hok
  obtain ⟨record, hrecord, -⟩ := MemoryWorld.info?_eq_some_iff.mp hseen
  simp only [enter, MemoryWorld.instanceOf_noteInstance, Registry.instanceOf_enroll]
  split
  · next hq =>
    subst hq
    rw [hrecord]
    rfl
  · exact h q

theorem notesAgree_leave (h : NotesAgree realm) (player : PlayerId) :
    NotesAgree (realm.leave player) := by
  intro q
  rw [leave]
  cases realm.registry.instanceOf player with
  | none => exact h q
  | some id =>
    simp only [MemoryWorld.instanceOf_noteInstance_none, Registry.instanceOf_withdraw]
    rw [h q]

theorem keeps_notesAgree_close (id : InstanceId) (reason : String) :
    (close id reason : Action (Realm MemoryWorld) _).Keeps NotesAgree := by
  intro realm h q
  simp only [close, Action.run_bind, run_getRegistry]
  cases realm.registry.instances[id]? with
  | none => exact h q
  | some i =>
    simp only [Action.run_bind, Action.run_record, run_onWorld, run_modifyRegistry, Action.run_pure,
      instanceOf_evictAll, Registry.instanceOf_dissolve, Std.ExtTreeSet.mem_toList]
    rw [h q]

/-- Whether the notes agree is not a matter of templates. -/
theorem keeps_notesAgree_readyTemplate (name : String) :
    (readyTemplate name : Action (Realm MemoryWorld) _).Keeps NotesAgree := by
  intro realm h q
  rw [run_readyTemplate]
  change ((realm.registry.templates.ensureLoaded name).run realm.world).state.instanceOf q = _
  rw [(TemplateCache.ensureLoaded_outcome _ name realm.world).1]
  split <;> exact h q

theorem stepsKeep_notesAgree : StepsKeep NotesAgree where
  toEntriesKeep := .ofSteps (fun _ _ _ h hok => notesAgree_enter h hok)
    fun _ player h => notesAgree_leave h player
  close := keeps_notesAgree_close
  readyTemplate := keeps_notesAgree_readyTemplate
  opening _ _ h _ _ := h
  arrival player h _ := fun q =>
    (MemoryWorld.keeps_notes_relocate _ player _ true _ (fun _ => rfl) q).trans (h q)

end Realm

/-- **The notes of the world and the index of the registry agree after every
run**, if there are no notes at the start and nobody else writes any. -/
theorem Run.note_eq_instanceOf {s : TemplateSettings} {w : MemoryWorld}
    {log : List (Call × Except Refusal Reply)} {realm : Realm MemoryWorld}
    (run : Run MemoryWorld.Change ⟨.ofSettings s, w⟩ log realm)
    (clear : ∀ q, w.instanceOf q = none) :
    (∀ q, realm.world.instanceOf q = realm.registry.instanceOf q) ∧
      ∀ q id, realm.world.instanceOf q = some id → id ∈ realm.registry.instances := by
  have hagree : realm.NotesAgree := by
    refine run.keeps Realm.stepsKeep_notesAgree (fun realm w' h goes q => ?_) (fun q => ?_)
    · rw [goes.instanceOf_eq]
      exact h q
    · rw [clear q]
      simp [Registry.instanceOf, Registry.ofSettings]
  refine ⟨hagree, fun q id hnote => ?_⟩
  have hin : realm.registry.instanceOf q = some id := (hagree q).symm.trans hnote
  exact run.consistent.mem_of_instanceOf hin

/-- A party of three comes in, the second of them loses the connection and leaves:
the third is still noted as being in the instance, which is open. -/
theorem Run.third_of_trio_noted :
    ∃ log realm, Run MemoryWorld.Change ⟨.ofSettings .usual, MemoryWorld.trio⟩ log realm ∧
      log.map Prod.fst = [.create .plain .epoch, .bindParty ⟨1⟩ ⟨1⟩, .playerLeave ⟨2⟩] ∧
      realm.world.instanceOf ⟨2⟩ = none ∧ realm.world.instanceOf ⟨3⟩ = some ⟨1⟩ ∧
      ⟨1⟩ ∈ realm.registry.instances := by
  have entered := (opened_trio MemoryWorld.Change).call (.bindParty ⟨1⟩ ⟨1⟩) trivial
  have run := (entered.drift (.setOnline ⟨2⟩ false)).call (.playerLeave ⟨2⟩) trivial
  obtain ⟨hagree, hopen⟩ := note_eq_instanceOf run MemoryWorld.instanceOf_trio
  have hthird := (hagree ⟨3⟩).trans rfl
  exact ⟨_, _, run, rfl, (hagree ⟨2⟩).trans rfl, hthird, hopen ⟨3⟩ ⟨1⟩ hthird⟩

end InstancedZones
