import InstancedZones.Proofs.Farewells
import InstancedZones.Proofs.Independence
import InstancedZones.Proofs.Merging

/-!
# Where players are sent

Players are moved on two occasions. When an instance closes, its members are sent to the
exit, or home if the exit cannot be used or refuses them; so if their homes can be used,
all of them are sent to places that can be, `Realm.movesUsable_exodus`. When players are
teleported in, they are sent to the entry, and this is not looked at: an entry that was
never set, or that lies on a floor that does not exist, is gone to like any other, unless
the world bars the way. Such a call `Call.Strays`.

Nothing else moves anybody. Hence all moves of a history end where players can be sent
just in case no call of it strayed, `Run.movesUsable_iff`.
-/

namespace InstancedZones

/-- All moves of a list end where players can be sent. -/
def MovesUsable (moves : List (PlayerId × Position)) : Prop := ∀ move ∈ moves, move.2.isValid = true

namespace MemoryWorld

variable {w w' w'' : MemoryWorld} {player q : PlayerId} {l : List (PlayerId × Position)}

/-! ## Homes -/

/-- The home of a player, if there is such a player. -/
def homeOf (w : MemoryWorld) (player : PlayerId) : Option Position :=
  w.players[player]?.map PlayerRecord.home

/-- Players can be sent to every home. -/
def HomesUsable (w : MemoryWorld) : Prop := ∀ q home, w.homeOf q = some home → home.isValid = true

/-- **The world goes on without moving anybody**, and players can be sent to every home. -/
def Calm (w w' : MemoryWorld) : Prop := w'.relocations = w.relocations ∧ w'.HomesUsable

theorem homesUsable_empty : empty.HomesUsable := fun q home h => by
  simp [homeOf, empty] at h

/-- A player who lives where players can be sent may appear. -/
theorem HomesUsable.addPlayer (h : w.HomesUsable) {level : UInt32} {home : Position}
    (hhome : home.isValid = true) : (w.addPlayer player level home).HomesUsable := by
  intro q other hother
  rw [homeOf, getElem?_addPlayer] at hother
  split at hother
  · rwa [← Option.some.inj hother]
  · exact h q other hother

theorem homesUsable_trio : trio.HomesUsable := by
  have hparty : ∀ (w : MemoryWorld) leader members, w.HomesUsable →
      (w.formParty leader members).HomesUsable := fun _ _ _ h => h
  have hhome : (⟨32, 32, 7⟩ : Position).isValid = true := by decide
  exact hparty _ _ _ (((homesUsable_empty.addPlayer hhome).addPlayer hhome).addPlayer hhome)

/-- A change of one record that leaves the home alone leaves all homes alone. -/
theorem homeOf_eq_of_modify {f : PlayerRecord → PlayerRecord}
    (h : w'.players[q]? = if player = q then w.players[q]?.map f else w.players[q]?)
    (hf : ∀ record, (f record).home = record.home) : w'.homeOf q = w.homeOf q := by
  rw [homeOf, homeOf, h]
  split
  · cases w.players[q]? with
    | none => rfl
    | some record => exact congrArg some (hf record)
  · rfl

/-- Players live where they lived after their farewells. -/
theorem home_farewell (i : Instance) (notice : String) :
    (w.farewell i notice q).record.map PlayerRecord.home = w.homeOf q := by
  rw [farewell, homeOf]
  cases w.players[q]? with
  | none => rfl
  | some record =>
    unfold Instance.farewell
    dsimp only
    split <;> rfl

/-! ## What calls do to homes and moves -/

/-- **Between one world and another, moves have been added** that end where players can be
sent, or none. -/
def AddsUsable (w w' : MemoryWorld) : Prop :=
  ∃ moves, w'.relocations = w.relocations ++ moves ∧ MovesUsable moves

theorem addsUsable_of_eq (h : w'.relocations = w.relocations) : w.AddsUsable w' :=
  ⟨[], h.trans (List.append_nil _).symm, fun _ hmove => nomatch hmove⟩

theorem AddsUsable.trans (h : w.AddsUsable w') (h' : w'.AddsUsable w'') : w.AddsUsable w'' := by
  obtain ⟨moves, hmoves, husable⟩ := h
  obtain ⟨moves', hmoves', husable'⟩ := h'
  refine ⟨moves ++ moves', ?_, List.forall_mem_append.mpr ⟨husable, husable'⟩⟩
  rw [hmoves', hmoves, List.append_assoc]

theorem AddsUsable.movesUsable (h : w.AddsUsable w') (husable : MovesUsable w.relocations) :
    MovesUsable w'.relocations := by
  obtain ⟨moves, hmoves, husable'⟩ := h
  rw [hmoves]
  exact List.forall_mem_append.mpr ⟨husable, husable'⟩

/-- **A world that has gone on from the moves `l`**: players can be sent to every home, and
moves may have been added. -/
structure Follows (l : List (PlayerId × Position)) (w : MemoryWorld) : Prop where
  homes : w.HomesUsable
  moves : l <+: w.relocations

/-- Nobody moves house, and moves are only added. -/
theorem Follows.of_homes (h : Follows l w) (hhomes : ∀ q, w'.homeOf q = w.homeOf q)
    (hmoves : w.relocations <+: w'.relocations) : Follows l w' where
  homes q home hhome := h.homes q home ((hhomes q).symm.trans hhome)
  moves := h.moves.trans hmoves

theorem Follows.of_calm (h : Follows l w) (goes : w.Calm w') : Follows l w' where
  homes := goes.2
  moves := goes.1.symm ▸ h.moves

theorem Follows.noteInstance (h : Follows l w) (player : PlayerId) (id : Option InstanceId) :
    Follows l (w.noteInstance player id) :=
  h.of_homes (fun _ => homeOf_eq_of_modify getElem?_noteInstance fun _ => rfl)
    (List.prefix_refl _)

/-- An attempt to move a player adds a move, or none. -/
theorem Follows.relocate (h : Follows l w) (player : PlayerId) (target : Position)
    (mustBeOnline : Bool) :
    Follows l ((World.relocate player target mustBeOnline : Action MemoryWorld _).run w).state := by
  rw [run_relocate]
  split
  · exact h.of_homes (fun _ => homeOf_eq_of_modify getElem?_move fun _ => rfl)
      (List.prefix_append _ _)
  · exact h

/-- The moves of a farewell end where players can be sent. -/
theorem movesUsable_farewellMoves (homes : w.HomesUsable) (i : Instance) (notice : String)
    (q : PlayerId) : MovesUsable (w.farewellMoves i notice q) := by
  intro move hmove
  obtain ⟨target, htarget, rfl⟩ := List.mem_map.mp hmove
  rw [farewell] at htarget
  cases hrecord : w.players[q]? with
  | none =>
    rw [hrecord] at htarget
    cases htarget
  | some record =>
    rw [hrecord] at htarget
    rw [i.eq_destination_of_mem_targets htarget]
    exact i.isValid_destination w.blocked
      (homes q record.home (congrArg (Option.map PlayerRecord.home) hrecord))

end MemoryWorld

/-- **A call strays** if it teleports a player who may come in to an entry where players
cannot be sent, and the world does not bar the way. -/
def Call.Strays (realm : Realm MemoryWorld) : Call → Prop
  | .teleportInto id player => realm.verdict player id = .ok () ∧
      ∃ i, realm.registry.instances[id]? = some i ∧ i.entry ∉ realm.world.blocked ∧
        i.entry.isValid = false
  | _ => False

namespace Realm

variable {realm : Realm MemoryWorld} {player : PlayerId} {id : InstanceId}
  {l : List (PlayerId × Position)}

open MemoryWorld (Follows)

/-- **Members of an instance that closes** are sent where players can be sent. -/
theorem movesUsable_exodus (homes : realm.world.HomesUsable) (reason : InstanceId → String)
    (id : InstanceId) : MovesUsable (realm.exodus reason id) := by
  unfold exodus
  cases realm.registry.instances[id]? with
  | none => exact fun _ hmove => nomatch hmove
  | some i =>
    intro move hmove
    obtain ⟨q, -, hq⟩ := List.mem_flatMap.mp hmove
    exact MemoryWorld.movesUsable_farewellMoves homes i _ q move hq

/-- **Closing an instance** adds moves to places where players can be sent, and nobody
moves house. -/
theorem addsUsable_close (consistent : realm.registry.Consistent)
    (homes : realm.world.HomesUsable) (id : InstanceId) (reason : String) :
    realm.world.AddsUsable ((close id reason).run realm).state.world ∧
      ∀ q, ((close id reason).run realm).state.world.homeOf q = realm.world.homeOf q := by
  have hclosed := evacuated_close consistent.tallied id fun _ => reason
  refine ⟨⟨_, hclosed.moves, ?_⟩, fun q => ?_⟩
  · rw [List.flatMap_singleton]
    exact movesUsable_exodus homes _ id
  · rcases hclosed.member_or_bystander consistent q with
      ⟨-, j, -, i, -, -, hrecord⟩ | ⟨-, -, hrecord⟩
    · rw [MemoryWorld.homeOf, hrecord, MemoryWorld.home_farewell]
    · rw [MemoryWorld.homeOf, hrecord, MemoryWorld.homeOf]

/-- Nobody moves house, or is moved, by leaving. -/
theorem follows_leave (h : Follows l realm.world) (player : PlayerId) :
    Follows l (realm.leave player).world := by
  unfold leave
  split
  · exact h
  · exact h.noteInstance player none

/-- **Nobody moves house, and moves are only added**, whatever the building blocks do. -/
theorem stepsKeep_follows (l : List (PlayerId × Position)) :
    StepsKeep fun realm => realm.registry.Consistent ∧ Follows l realm.world where
  toEntriesKeep := .ofSteps
    (fun _ player id h hok => ⟨consistent_enter h.1 hok, h.2.noteInstance player (some id)⟩)
    (fun _ player h => ⟨consistent_leave h.1 player, follows_leave h.2 player⟩)
  readyTemplate name realm h := by
    refine ⟨stepsKeep_consistent.readyTemplate name realm h.1, ?_⟩
    rw [run_readyTemplate]
    dsimp only
    rw [(TemplateCache.ensureLoaded_outcome _ name realm.world).1]
    split
    · exact h.2.of_homes (fun _ => rfl) (List.prefix_refl _)
    · exact h.2
  arrival player h _ := ⟨h.1, h.2.relocate player _ true⟩
  close id reason realm h := by
    obtain ⟨⟨moves, hmoves, -⟩, hhomes⟩ := addsUsable_close h.1 h.2.homes id reason
    refine ⟨stepsKeep_consistent.close id reason realm h.1, h.2.of_homes hhomes ?_⟩
    exact hmoves ▸ List.prefix_append _ _
  opening b now h hresolved hfree :=
    ⟨stepsKeep_consistent.opening b now h.1 hresolved hfree, h.2⟩

/-! ## The moves of a call -/

/-- **Nobody is moved by coming in or leaving.** -/
theorem entriesKeep_moves (l : List (PlayerId × Position)) :
    EntriesKeep fun realm : Realm MemoryWorld => realm.world.relocations = l :=
  .ofSteps (fun _ _ _ h _ => h) fun realm player h =>
    (Step.leave.relocations_apply player realm).trans ((List.append_nil _).trans h)

/-- **A sweep** adds moves to places where players can be sent. -/
theorem addsUsable_sweepExpired (consistent : realm.registry.Consistent)
    (homes : realm.world.HomesUsable) (now : Timestamp) :
    realm.world.AddsUsable ((sweepExpired now).run realm).state.world := by
  have hclose : ∀ id, (close id expiredReason : Action (Realm MemoryWorld) _).Keeps fun realm' =>
      (realm'.registry.Consistent ∧ Follows [] realm'.world) ∧
        realm.world.AddsUsable realm'.world := fun id realm' ⟨h, hadds⟩ =>
    ⟨(stepsKeep_follows []).close id expiredReason realm' h,
      hadds.trans (addsUsable_close h.1 h.2.homes id expiredReason).1⟩
  have hnone := MemoryWorld.addsUsable_of_eq (rfl : realm.world.relocations = _)
  have hclosing := keeps_closeEach fun id (_ : id ∈ realm.registry.expiredAt now) => hclose id
  rw [(run_sweepExpired now realm).2]
  exact (hclosing realm ⟨⟨consistent, homes, List.nil_prefix⟩, hnone⟩).2

/-- The moves of a visit are those of its plan. -/
theorem relocations_visit (h : realm.registry.TemplatesResolved) (player : PlayerId)
    (visit : Visit) :
    ((visit.call player).perform.run realm).state.world.relocations
      = realm.world.relocations ++ (visit.plan realm player).moves player := by
  rw [(visit.run_call h player).2, ((visit.plan realm player).apply_frame player realm).2.2]

/-- A teleport of a player who is declined moves nobody. -/
theorem relocations_teleport_of_error (h : realm.registry.TemplatesResolved) {refusal : Refusal}
    (herror : realm.verdict player id = .error refusal) :
    ((Call.teleportInto id player).perform.run realm).state.world.relocations
      = realm.world.relocations := by
  refine (relocations_visit h player (.teleport id)).trans ?_
  simp only [Visit.plan, herror]
  exact List.append_nil _

/-- **A teleport** of a player who may come in moves the player to the entry, unless the
world bars the way. -/
theorem relocations_teleport_of_ok (h : realm.registry.TemplatesResolved) {i : Instance}
    (hok : realm.verdict player id = .ok ()) (hi : realm.registry.instances[id]? = some i) :
    ((Call.teleportInto id player).perform.run realm).state.world.relocations
      = realm.world.relocations ++ if i.entry ∈ realm.world.blocked then [] else
          [(player, i.entry)] := by
  obtain ⟨seen, -, hseen, -⟩ := Registry.verdict_eq_ok_iff.mp hok
  obtain ⟨record, hrecord, honline, -⟩ := MemoryWorld.info?_eq_some_iff.mp hseen
  refine (relocations_visit h player (.teleport id)).trans (congrArg (_ ++ ·) ?_)
  simp only [Visit.plan, hok, arrival, hi, MemoryWorld.moveOutcome, hrecord, honline,
    Bool.not_true, Bool.and_false, Bool.false_eq_true, if_false]
  by_cases hbar : i.entry ∈ realm.world.blocked
  · obtain ⟨outcome, houtcome⟩ := MemoryWorld.exists_outcome hbar
    rw [if_pos hbar, houtcome]
    cases outcome.succeeded <;> simp [Plan.moves, Step.moves]
  · rw [if_neg hbar, Std.ExtTreeMap.getElem?_eq_none hbar]
    rfl

/-- **A call that does not stray** adds moves to places where players can be sent, or
none. -/
theorem addsUsable_perform (resolved : realm.registry.TemplatesResolved)
    (consistent : realm.registry.Consistent) (homes : realm.world.HomesUsable) {c : Call}
    (h : ¬ c.Strays realm) : realm.world.AddsUsable (c.perform.run realm).state.world := by
  have entries := entriesKeep_moves realm.world.relocations
  cases c with
  | create b now =>
    refine MemoryWorld.addsUsable_of_eq ?_
    rw [Call.perform, Action.run_bind_pure, (run_create_state b now realm).2,
      (TemplateCache.ensureLoaded_outcome _ _ _).1]
    split <;> rfl
  | bindPlayer player id =>
    exact MemoryWorld.addsUsable_of_eq (entries.bindPlayer player id realm rfl)
  | bindParty leader id =>
    exact MemoryWorld.addsUsable_of_eq (entries.bindParty leader id realm rfl)
  | playerLeave player =>
    exact MemoryWorld.addsUsable_of_eq (entries.playerLeave player realm rfl)
  | close id reason => exact (addsUsable_close consistent homes id reason).1
  | sweepExpired now => exact addsUsable_sweepExpired consistent homes now
  | teleportInto id player =>
    cases hverdict : realm.verdict player id with
    | error refusal =>
      exact MemoryWorld.addsUsable_of_eq (relocations_teleport_of_error resolved hverdict)
    | ok =>
      obtain ⟨-, i, -, hi, -⟩ := Registry.verdict_eq_ok_iff.mp hverdict
      refine ⟨_, relocations_teleport_of_ok resolved hverdict hi, fun move hmove => ?_⟩
      by_cases hbar : i.entry ∈ realm.world.blocked
      · rw [if_pos hbar] at hmove
        cases hmove
      · rw [if_neg hbar] at hmove
        obtain rfl := List.mem_singleton.mp hmove
        exact eq_true_of_ne_false fun hentry => h ⟨hverdict, i, hi, hbar, hentry⟩

/-- **A call that strays** adds a move to a place where players cannot be sent. -/
theorem exists_move_of_strays (resolved : realm.registry.TemplatesResolved) {c : Call}
    (h : c.Strays realm) :
    ∃ move ∈ (c.perform.run realm).state.world.relocations, move.2.isValid = false := by
  cases c with
  | teleportInto id player =>
    obtain ⟨hok, i, hi, hbar, hentry⟩ := h
    refine ⟨(player, i.entry), ?_, hentry⟩
    rw [relocations_teleport_of_ok resolved hok hi, if_neg hbar]
    exact List.mem_append_right _ (List.mem_singleton_self _)
  | create | bindPlayer | bindParty | close | playerLeave | sweepExpired => exact h.elim

end Realm

namespace Run

variable {drift : MemoryWorld → MemoryWorld → Prop} {start realm mid : Realm MemoryWorld}
  {log : List (Call × Except Refusal Reply)} {c : Call}

/-- **A history in which a call was made in a given realm**: there is a history up to the
call, and one from what the call left behind, and the log is that of the two and the call
between them. -/
def Makes (drift : MemoryWorld → MemoryWorld → Prop) (start : Realm MemoryWorld)
    (log : List (Call × Except Refusal Reply)) (realm mid : Realm MemoryWorld) (c : Call) :
    Prop :=
  ∃ before after, Run drift start before mid ∧ c.Returns mid ∧
    Run drift (c.perform.run mid).state after realm ∧
    log = before ++ (c, (c.perform.run mid).answer) :: after

namespace Makes

/-- The call made last. -/
theorem last (before : Run drift start log realm) (returns : c.Returns realm) :
    Makes drift start (log ++ [(c, (c.perform.run realm).answer)]) (c.perform.run realm).state
      realm c :=
  ⟨log, [], before, returns, .start, rfl⟩

/-- A call made before another. -/
theorem call (h : Makes drift start log realm mid c) (c' : Call) (returns : c'.Returns realm) :
    Makes drift start (log ++ [(c', (c'.perform.run realm).answer)]) (c'.perform.run realm).state
      mid c := by
  obtain ⟨before, after, hbefore, hreturns, hafter, rfl⟩ := h
  refine ⟨before, _, hbefore, hreturns, hafter.call c' returns, ?_⟩
  rw [List.append_assoc, List.cons_append]

/-- A call made before the world went on. -/
theorem drifted {w : MemoryWorld} (h : Makes drift start log realm mid c)
    (goes : drift realm.world w) : Makes drift start log { realm with world := w } mid c := by
  obtain ⟨before, after, hbefore, hreturns, hafter, hlog⟩ := h
  exact ⟨before, after, hbefore, hreturns, hafter.drift goes, hlog⟩

end Makes

variable {s : TemplateSettings} {w : MemoryWorld}

/-- On the way the templates of the open instances are resolved, the registry is
consistent, and players can be sent to every home. -/
theorem homes_of_calm (run : Run MemoryWorld.Calm ⟨.ofSettings s, w⟩ log realm)
    (homes : w.HomesUsable) :
    realm.registry.TemplatesResolved ∧ realm.registry.Consistent ∧ realm.world.HomesUsable := by
  have h := run.keeps (Realm.stepsKeep_follows []) (fun _ _ h goes => ⟨h.1, h.2.of_calm goes⟩)
    ⟨Registry.consistent_ofSettings s, homes, List.nil_prefix⟩
  exact ⟨run.templatesResolved, h.1, h.2.homes⟩

/-- **Players are sent to usable places just in case no call strays.** Let players be sent
to every home, at the start and whenever the world goes on, which moves nobody. Then all
moves made so far end where players can be sent exactly if none of the calls made was a
teleport of a player who may come in to an entry that is not set, or on a floor that does
not exist, with the way not barred. -/
theorem movesUsable_iff (run : Run MemoryWorld.Calm ⟨.ofSettings s, w⟩ log realm)
    (homes : w.HomesUsable) (hstart : MovesUsable w.relocations) :
    MovesUsable realm.world.relocations
      ↔ ∀ mid c, Makes MemoryWorld.Calm ⟨.ofSettings s, w⟩ log realm mid c → ¬ c.Strays mid := by
  constructor
  · rintro husable mid c ⟨before, after, hbefore, returns, hafter, -⟩ hstrays
    obtain ⟨resolved, consistent, hhomes⟩ := hbefore.homes_of_calm homes
    obtain ⟨move, hmove, hinvalid⟩ := Realm.exists_move_of_strays resolved hstrays
    -- what has been written down of the call is still written down at the end
    have hmade := (Realm.stepsKeep_follows _).perform c
      ⟨consistent, hhomes, List.prefix_refl _⟩ returns
    have hkept := hafter.keeps (Realm.stepsKeep_follows _)
      (fun _ _ h goes => ⟨h.1, h.2.of_calm goes⟩) ⟨hmade.1, hmade.2.homes, List.prefix_refl _⟩
    rw [husable move (hkept.2.moves.subset hmove)] at hinvalid
    cases hinvalid
  · intro hstraight
    induction run with
    | start => exact hstart
    | call c earlier returns ih =>
      obtain ⟨resolved, consistent, hhomes⟩ := earlier.homes_of_calm homes
      have hadds := Realm.addsUsable_perform resolved consistent hhomes
        (hstraight _ c (.last earlier returns))
      exact hadds.movesUsable (ih fun mid c' h => hstraight mid c' (h.call c returns))
    | drift _ goes ih =>
      rw [goes.1]
      exact ih fun mid c h => hstraight mid c (h.drifted goes)

/-- One of three is teleported to an entry that is set and sent home when the instance
closes: all moves end where players can be sent, so the teleport did not stray. -/
theorem teleport_of_trio_straight :
    ∃ log realm, Run MemoryWorld.Calm ⟨.ofSettings .usual, MemoryWorld.trio⟩ log realm ∧
      log.map Prod.fst = [.create { Blueprint.plain with entry := ⟨100, 100, 7⟩ } .epoch,
        .teleportInto ⟨1⟩ ⟨1⟩, .close ⟨1⟩ "done"] ∧
      realm.world.relocations = [(⟨1⟩, ⟨100, 100, 7⟩), (⟨1⟩, ⟨32, 32, 7⟩)] ∧
      ∀ mid c, Makes MemoryWorld.Calm ⟨.ofSettings .usual, MemoryWorld.trio⟩ log realm mid c →
        ¬ c.Strays mid := by
  have opened : Run MemoryWorld.Calm ⟨.ofSettings .usual, MemoryWorld.trio⟩ _ _ :=
    .call (.create { Blueprint.plain with entry := ⟨100, 100, 7⟩ } .epoch) .start
      fun _ _ => ⟨0, by decide +kernel⟩
  have run := (opened.call (.teleportInto ⟨1⟩ ⟨1⟩) trivial).call (.close ⟨1⟩ "done") trivial
  refine ⟨_, _, run, rfl, by decide +kernel, ?_⟩
  exact (movesUsable_iff run MemoryWorld.homesUsable_trio (fun _ h => nomatch h)).mp
    (by unfold MovesUsable; decide +kernel)

/-- The entry of a plain instance is not set, and one of three is teleported there. -/
theorem teleport_of_trio_strays :
    ∃ log realm, Run MemoryWorld.Calm ⟨.ofSettings .usual, MemoryWorld.trio⟩ log realm ∧
      MemoryWorld.trio.HomesUsable ∧
      log.map Prod.fst = [.create .plain .epoch, .teleportInto ⟨1⟩ ⟨1⟩] ∧
      realm.world.relocations = [(⟨1⟩, .unset)] ∧ ¬ MovesUsable realm.world.relocations := by
  have run := (opened_trio MemoryWorld.Calm).call (.teleportInto ⟨1⟩ ⟨1⟩) trivial
  refine ⟨_, _, run, MemoryWorld.homesUsable_trio, rfl, by decide +kernel, ?_⟩
  unfold MovesUsable
  decide +kernel

end Run

end InstancedZones
