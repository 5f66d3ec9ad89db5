import InstancedZones.Proofs.Farewells
import InstancedZones.Proofs.Merging
import InstancedZones.Proofs.Standing

/-!
# Members would be let in again

The level of a player is looked at once, when the player comes in. Nothing that happens
afterwards is checked, and nothing need be: as long as the world leaves its players the
level and the note that they have, whatever else it does to them, every member of an open
instance has a record, of a level that suffices, with a note of the instance. This is
`Realm.MembersFit`, and the steps of a player keep it, since only who has been let in
comes in.

So a member who is connected and asks again is let in again, and finds everything in
place: the index entry, the list and the note are there already, and the realm stays
exactly as it is, `Run.member_admitted_again`.
-/

namespace InstancedZones

namespace MemoryWorld

variable {w w' : MemoryWorld} {player : PlayerId}

/-- **A world has gone on and left its players the level and the note that they have.**
They may have been moved, told things, connected or disconnected, and others may have
appeared. -/
def Retains (w w' : MemoryWorld) : Prop :=
  ∀ (q : PlayerId) (record : PlayerRecord), w.players[q]? = some record →
    ∃ record' : PlayerRecord, w'.players[q]? = some record' ∧
      record'.level = record.level ∧ record'.instance? = record.instance?

/-- A world with the same players has left them what they have. -/
theorem retains_of_players_eq (h : w'.players = w.players) : w.Retains w' :=
  fun q record hrecord => ⟨record, by rw [h, hrecord], rfl, rfl⟩

/-- A change of one record that leaves the level and the note alone. -/
theorem retains_of_modify {f : PlayerRecord → PlayerRecord}
    (h : ∀ q : PlayerId, w'.players[q]?
      = if player = q then w.players[q]?.map f else w.players[q]?)
    (hlevel : ∀ record, (f record).level = record.level)
    (hnote : ∀ record, (f record).instance? = record.instance?) : w.Retains w' := by
  intro q record hrecord
  rw [h q, hrecord]
  split
  · exact ⟨f record, rfl, hlevel record, hnote record⟩
  · exact ⟨record, rfl, rfl, rfl⟩

/-- An attempt to move a player leaves all players what they have. -/
theorem retains_relocate (player : PlayerId) (target : Position) (mustBeOnline : Bool) :
    w.Retains ((World.relocate player target mustBeOnline : Action MemoryWorld _).run w).state := by
  rw [run_relocate]
  split
  · exact retains_of_modify (fun q => getElem?_move) (fun _ => rfl) fun _ => rfl
  · exact retains_of_players_eq rfl

/-- **Nothing that happens in the world apart from the calls** takes a level or a note
away, if nobody writes notes and nobody is added twice. -/
theorem Change.retains (h : Change w w') : w.Retains w' := by
  cases h with
  | addPlayer level home new =>
    intro q record hrecord
    rw [getElem?_addPlayer, if_neg ?_]
    · exact ⟨record, hrecord, rfl, rfl⟩
    · rintro rfl
      rw [Std.ExtTreeMap.getElem?_eq_none new] at hrecord
      cases hrecord
  | setOnline player online =>
    exact retains_of_modify (fun q => getElem?_setOnline) (fun _ => rfl) fun _ => rfl
  | relocate player target mustBeOnline => exact retains_relocate player target mustBeOnline
  | sendNotice player text =>
    exact retains_of_modify (fun q => getElem?_notify) (fun _ => rfl) fun _ => rfl
  | formParty | addTemplate | addBrokenTemplate | block | unblock =>
    exact retains_of_players_eq rfl

end MemoryWorld

/-- **A player stands as a member should**: if the index has the player in an instance,
the instance is open, the world has a record of the player with a note of the instance,
and the level of the record suffices. -/
def Standing.Fits (s : Standing) (setting : Setting) : Prop :=
  ∀ id, s.member = some id → ∃ record i, s.record = some record ∧
    setting.instances id = some i ∧ record.instance? = some id ∧ i.minLevel ≤ record.level

namespace Realm

/-- **All members stand as they should.** -/
def MembersFit (realm : Realm MemoryWorld) : Prop := ∀ q, (realm.standing q).Fits realm.setting

variable {realm realm' : Realm MemoryWorld} {player q : PlayerId} {id : InstanceId}

/-! ## What keeps members as they should be -/

/-- **The steps of a player who is let in wherever the player comes in** leave all members
as they should be. -/
theorem Step.membersFit_apply (h : realm.MembersFit) (step : Step)
    (admitted : ∀ id, step = .enter id → realm.verdict player id = .ok ()) :
    (step.apply player realm).MembersFit := by
  intro q
  rw [step.setting_apply]
  by_cases hq : player = q
  · subst hq
    rw [step.standing_apply_self]
    cases step with
    | enter id =>
      obtain ⟨seen, i, hseen, hi, hlevel, -⟩ := Registry.verdict_eq_ok_iff.mp (admitted id rfl)
      obtain ⟨record, hrecord, -, rfl⟩ := MemoryWorld.info?_eq_some_iff.mp hseen
      rintro j ⟨⟩
      exact ⟨{ record with instance? := some id }, i.vacated,
        congrArg (Option.map _) hrecord, congrArg (Option.map _) hi, rfl, hlevel⟩
    | leave =>
      unfold after
      cases hmember : (realm.standing player).member with
      | none => exact h player
      | some id => rintro j ⟨⟩
    | move target =>
      intro j hj
      obtain ⟨record, i, hrecord, hi, hnote, hlevel⟩ := h player j hj
      exact ⟨{ record with position := target }, i, congrArg (Option.map _) hrecord, hi, hnote,
        hlevel⟩
  · rw [step.standing_apply_of_ne hq]
    exact h q

/-- The world going on leaves all members as they should be. -/
theorem MembersFit.of_retains (h : realm.MembersFit)
    (hinstances : realm'.registry.instances = realm.registry.instances)
    (hmembers : realm'.registry.members = realm.registry.members)
    (hworld : realm.world.Retains realm'.world) : realm'.MembersFit := by
  intro q id hin
  have hin' : realm.registry.instanceOf q = some id := by
    rw [← hin]
    exact congrArg (·[q]?) hmembers.symm
  obtain ⟨record, i, hrecord, hi, hnote, hlevel⟩ := h q id hin'
  obtain ⟨record', hrecord', hlevel', hnote'⟩ := hworld q record hrecord
  refine ⟨record', i, hrecord', ?_, hnote'.trans hnote, hlevel'.symm ▸ hlevel⟩
  rw [← hi]
  exact congrArg (fun instances => Option.map Instance.vacated instances[id]?) hinstances

/-- **Closing an instance**: its members are out, and those of the others stand as they
did. -/
theorem keeps_membersFit_close (id : InstanceId) (reason : String) :
    (close id reason : Action (Realm MemoryWorld) _).Keeps fun realm =>
      realm.registry.Consistent ∧ realm.MembersFit := by
  intro realm ⟨consistent, h⟩
  refine ⟨stepsKeep_consistent.close id reason realm consistent, ?_⟩
  have hclosed := evacuated_close consistent.tallied id fun _ => reason
  intro q j hin
  rcases hclosed.member_or_bystander consistent q with ⟨hout, -⟩ | ⟨hin', hnone, hrecord'⟩
  · cases hout.symm.trans hin
  · have hj : j ∉ [id] := fun hj => hnone j hj (hin'.symm.trans hin)
    obtain ⟨record, k, hrecord, hk, hfits⟩ := h q j (hin'.symm.trans hin)
    refine ⟨record, k, hrecord'.trans hrecord, ?_, hfits⟩
    rw [← hk]
    exact congrArg (Option.map Instance.vacated) ((hclosed.instances j).trans (if_neg hj))

/-- **Opening an instance** leaves the members of the others as they should be. -/
theorem membersFit_add {i : Instance} (h : realm.MembersFit)
    (hfree : i.id ∉ realm.registry.instances) :
    MembersFit { realm with registry := realm.registry.add i } := by
  intro q j hin
  obtain ⟨record, k, hrecord, hk, hfits⟩ := h q j hin
  refine ⟨record, k, hrecord, ?_, hfits⟩
  have hne : i.id ≠ j := by
    rintro rfl
    have hnone : realm.setting.instances i.id = none :=
      congrArg (Option.map Instance.vacated) (Std.ExtTreeMap.getElem?_eq_none hfree)
    cases hnone.symm.trans hk
  rw [← hk]
  exact congrArg (Option.map Instance.vacated) (Registry.getElem?_add.trans (if_neg hne))

/-- **All members stand as they should**, whatever the building blocks do. -/
theorem stepsKeep_membersFit :
    StepsKeep fun realm => realm.registry.Consistent ∧ realm.MembersFit where
  toEntriesKeep := .ofSteps
    (fun _ _ id h hok => ⟨consistent_enter h.1 hok,
      Step.membersFit_apply h.2 (.enter id) fun _ hj => Step.enter.inj hj ▸ hok⟩)
    (fun _ player h => ⟨consistent_leave h.1 player,
      Step.membersFit_apply h.2 .leave fun _ hj => nomatch hj⟩)
  readyTemplate name realm h := by
    refine ⟨stepsKeep_consistent.readyTemplate name realm h.1, ?_⟩
    rw [run_readyTemplate]
    refine h.2.of_retains rfl rfl (MemoryWorld.retains_of_players_eq ?_)
    dsimp only
    rw [(TemplateCache.ensureLoaded_outcome _ name realm.world).1]
    split <;> rfl
  arrival player h _ :=
    ⟨h.1, h.2.of_retains rfl rfl (MemoryWorld.retains_relocate player _ true)⟩
  close := keeps_membersFit_close
  opening b now h hresolved hfree :=
    ⟨stepsKeep_consistent.opening b now h.1 hresolved hfree, membersFit_add h.2 hfree⟩

/-! ## Coming in again -/

/-- **Nothing is left to be done when a member comes in again** of whom the instance is
noted already. -/
theorem enter_eq_self (consistent : realm.registry.Consistent)
    (hin : realm.registry.instanceOf player = some id)
    (hnote : ∀ record, realm.world.players[player]? = some record →
      record.instance? = some id) : realm.enter player id = realm := by
  refine ((Step.enter id).confined player realm).unique (.refl _ realm) fun q hq => ?_
  obtain rfl := List.mem_singleton.mp hq
  have hlisted : (fun j => realm.registry.isPlayerBound q j ||
      (decide (id = j) && decide (id ∈ realm.registry.instances)))
        = realm.registry.isPlayerBound q := by
    funext j
    by_cases hj : id = j
    · subst hj
      rw [(consistent.indexed q id).mp hin, Bool.true_or]
    · rw [decide_eq_false hj, Bool.false_and, Bool.or_false]
  have hrecord : realm.world.players[q]?.map ({ · with instance? := some id })
      = realm.world.players[q]? := by
    cases h : realm.world.players[q]? with
    | none => rfl
    | some record => rw [Option.map_some, ← hnote record h]
  refine ((Step.enter id).standing_apply_self q realm).trans ?_
  unfold Step.after standing
  dsimp only
  rw [hlisted, hrecord, hin]

/-- **A member who is connected is let in again**, and nothing changes. -/
theorem run_bindPlayer_of_member (consistent : realm.registry.Consistent) (h : realm.MembersFit)
    {record : PlayerRecord} (hin : realm.registry.instanceOf player = some id)
    (hrecord : realm.world.players[player]? = some record) (honline : record.online = true) :
    ((bindPlayer player id).run realm).answer = .ok () ∧
      ((bindPlayer player id).run realm).state = realm := by
  obtain ⟨record', v, hrecord', hv, hnote, hlevel⟩ := h player id hin
  obtain rfl := Option.some.inj (hrecord.symm.trans hrecord')
  obtain ⟨i, hi, rfl⟩ := Option.map_eq_some_iff.mp hv
  have hok : realm.verdict player id = .ok () := by
    have hseen := MemoryWorld.info?_eq_some_iff.mpr ⟨record, hrecord, honline, rfl⟩
    refine Registry.verdict_eq_ok_iff.mpr ⟨_, i, hseen, hi, hlevel, ?_⟩
    -- the index has the player in this instance and in no other
    refine Registry.elsewhere?_eq_none_iff.mpr fun current hcurrent => .inl ?_
    rw [hin] at hcurrent
    exact (Option.some.inj hcurrent).symm
  rw [run_bindPlayer_of_ok hok]
  refine ⟨rfl, enter_eq_self consistent hin fun other hother => ?_⟩
  rwa [← Option.some.inj (hrecord.symm.trans hother)]

end Realm

/-- **Every member of an open instance would be let in again.** However calls and world
go on, so long as the world leaves its players the level and the note that they have: of
each member there is a record, its level suffices, and if the member is connected and
asks to come in again, the member is let in, and the registry and the world stay exactly
as they are. -/
theorem Run.member_admitted_again {s : TemplateSettings} {w : MemoryWorld}
    {log : List (Call × Except Refusal Reply)} {realm : Realm MemoryWorld}
    (run : Run MemoryWorld.Retains ⟨.ofSettings s, w⟩ log realm) {id : InstanceId}
    {i : Instance} {player : PlayerId} (hi : realm.registry.instances[id]? = some i)
    (hplayer : player ∈ i.players) :
    ∃ record, realm.world.players[player]? = some record ∧ i.minLevel ≤ record.level ∧
      (record.online = true →
        ((Realm.bindPlayer player id).run realm).answer = .ok () ∧
          ((Realm.bindPlayer player id).run realm).state = realm) := by
  obtain ⟨consistent, hfit⟩ := run.keeps Realm.stepsKeep_membersFit
    (fun _ _ h goes => ⟨h.1, h.2.of_retains rfl rfl goes⟩)
    ⟨Registry.consistent_ofSettings s, fun q id hin => by
      simp [Realm.standing, Registry.instanceOf, Registry.ofSettings] at hin⟩
  have hin := (consistent.instanceOf_eq_some_iff hi).mpr hplayer
  obtain ⟨record, v, hrecord, hv, -, hlevel⟩ := hfit player id hin
  obtain ⟨j, hj, rfl⟩ := Option.map_eq_some_iff.mp hv
  obtain rfl := Option.some.inj (hi.symm.trans hj)
  exact ⟨record, hrecord, hlevel, Realm.run_bindPlayer_of_member consistent hfit hin hrecord⟩

/-- A party of three comes into an instance for players of level 20, and one of them loses
the connection: another asks again, and nothing comes of it. -/
theorem Run.third_of_trio_admitted_again :
    ∃ log realm, Run MemoryWorld.Retains ⟨.ofSettings .usual, MemoryWorld.trio⟩ log realm ∧
      log.map Prod.fst = [.create .plain .epoch,
        .create { Blueprint.plain with minLevel := 20 } .epoch, .bindParty ⟨1⟩ ⟨2⟩] ∧
      ((Realm.bindPlayer ⟨3⟩ ⟨2⟩).run realm).answer = .ok () ∧
        ((Realm.bindPlayer ⟨3⟩ ⟨2⟩).run realm).state = realm := by
  have opened := (opened_trio MemoryWorld.Retains).call
    (.create { Blueprint.plain with minLevel := 20 } .epoch) fun _ _ => ⟨0, by decide +kernel⟩
  have run := (opened.call (.bindParty ⟨1⟩ ⟨2⟩) trivial).drift
    (MemoryWorld.Change.setOnline ⟨2⟩ false).retains
  obtain ⟨i, hi, hin⟩ := Registry.isPlayerBound_iff.mp ((run.consistent.indexed ⟨3⟩ ⟨2⟩).mp rfl)
  obtain ⟨record, hrecord, -, hagain⟩ := member_admitted_again run hi hin
  have honline : (some record).map PlayerRecord.online = some true := by
    rw [← hrecord]
    rfl
  exact ⟨_, _, run, rfl, hagain (Option.some.inj honline)⟩

end InstancedZones
