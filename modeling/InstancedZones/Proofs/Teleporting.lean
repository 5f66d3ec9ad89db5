import InstancedZones.Proofs.Independence

/-!
# How a teleport ends

A teleport lets a player in, makes the template ready and moves the player to the entry. As
the templates of open instances are resolved, the second step never fails, so there are three
ways for it to end. The player is declined, and nothing has changed; or the world refuses the
move, and the player is taken out again; or the player is in and at the entry. Everybody else
and what all share are left alone in any case, `Run.teleport_outcomes`.

Being taken out again is not the same as never having been let in: a player who was in the
instance before is out of it afterwards, `Run.barred_teleport_takes_out`.

For this, a move that the world calls a success must have taken place. A world in memory can
be told otherwise, by barring a position with success for an answer, and this is excluded,
`MemoryWorld.BarsRefuse`.
-/

namespace InstancedZones

/-- How a player stands who has been moved. -/
def Standing.movedTo (s : Standing) (target : Position) : Standing :=
  { s with record := s.record.map ({ · with position := target }) }

namespace MemoryWorld

/-- **Barred positions refuse moves**: none of them answers with success. -/
def BarsRefuse (w : MemoryWorld) : Prop :=
  ∀ target : Position, w.blocked[target]? ≠ some .moved

variable {w : MemoryWorld} {player : PlayerId} {target : Position} {mustBeOnline : Bool}

theorem barsRefuse_of_blocked_eq_empty (h : w.blocked = ∅) : w.BarsRefuse := by
  intro target
  simp [h]

theorem BarsRefuse.block (h : w.BarsRefuse) {position : Position} {outcome : Relocation}
    (houtcome : outcome ≠ .moved) : (w.block position outcome).BarsRefuse := by
  intro target
  rw [MemoryWorld.block, Table.getElem?_insert]
  split
  · exact fun hbar => houtcome (Option.some.inj hbar)
  · exact h target

/-- **A move that succeeds takes place** where barred positions refuse. -/
theorem BarsRefuse.moves_of_moved (h : w.BarsRefuse)
    (hmoved : (w.moveOutcome player target mustBeOnline).1 = .moved) :
    (w.moveOutcome player target mustBeOnline).2 = true := by
  unfold moveOutcome at hmoved ⊢
  split at hmoved
  · cases hmoved
  · split at hmoved
    · cases hmoved
    · split at hmoved
      · next outcome hbar => exact absurd (hbar.trans (congrArg some hmoved)) (h target)
      · next hmust _ _ => simp [hmust]

end MemoryWorld

namespace Realm

variable {realm : Realm MemoryWorld} {player : PlayerId} {id : InstanceId} {i : Instance}

/-- The steps of a plan are confined to the player. -/
theorem Plan.confined (plan : Plan) (player : PlayerId) (realm : Realm MemoryWorld) :
    Confined [player] (plan.moves player) realm (plan.apply player realm) :=
  let ⟨hsetting, hothers, hmoves⟩ := plan.apply_frame player realm
  ⟨hsetting, fun q hq => hothers q (Ne.symm (List.ne_of_not_mem_cons hq)), hmoves⟩

/-- What becomes of a player who has been let in is told by what the world answers. -/
theorem arrival_eq (bars : realm.world.BarsRefuse)
    (hi : realm.registry.instances[id]? = some i) :
    realm.arrival player id
      = if (realm.world.moveOutcome player i.entry true).1 = .moved
        then ⟨.ok .done, [.enter id, .move i.entry]⟩
        else ⟨.error (.relocation (realm.world.moveOutcome player i.entry true).1),
          [.enter id, .leave]⟩ := by
  unfold arrival
  rw [hi]
  dsimp only
  by_cases hmoved : (realm.world.moveOutcome player i.entry true).1 = .moved
  · rw [if_pos hmoved, if_pos (Relocation.succeeded_iff.mpr hmoved), bars.moves_of_moved hmoved]
    rfl
  · rw [if_neg hmoved, if_neg (Relocation.succeeded_iff.not.mpr hmoved)]

/-- A player who is declined is not teleported, and nothing changes. -/
theorem run_teleportInto_of_error {refusal : Refusal}
    (h : realm.verdict player id = .error refusal) :
    ((teleportInto id player).run realm).answer = .error refusal ∧
      ((teleportInto id player).run realm).state = realm := by
  rw [teleportInto, Action.run_bind, run_bindPlayer_of_error h]
  exact ⟨rfl, rfl⟩

/-- **The answer to the move** of a player who is let in is the same before and after. -/
theorem answer_relocate_of_ok (hok : realm.verdict player id = .ok ()) (target : Position) :
    ((World.relocate player target true : Action MemoryWorld _).run
        ((bindPlayer player id).run realm).state.world).answer
      = (realm.world.moveOutcome player target true).1 := by
  rw [run_bindPlayer_of_ok hok, MemoryWorld.run_relocate]
  exact congrArg Prod.fst (MemoryWorld.moveOutcome_noteInstance (some id))

/-- **A player who has been let in is at the entry or out again.** -/
theorem teleportInto_of_ok (resolved : realm.registry.TemplatesResolved)
    (sides : realm.registry.SidesAgree) (bars : realm.world.BarsRefuse)
    (hok : realm.verdict player id = .ok ()) (hi : realm.registry.instances[id]? = some i) :
    let outcome := (realm.world.moveOutcome player i.entry true).1
    let teleport := (teleportInto id player).run realm
    (outcome = .moved ∧ teleport.answer = .ok () ∧
      teleport.state.standing player = ((realm.standing player).inside id).movedTo i.entry ∧
      Confined [player] [(player, i.entry)] realm teleport.state) ∨
    (outcome ≠ .moved ∧ teleport.answer = .error (.relocation outcome) ∧
      teleport.state.standing player = (realm.standing player).outside ∧
      Confined [player] [] realm teleport.state) := by
  intro outcome teleport
  obtain ⟨hanswer, hstate⟩ := run_teleportInto_of_ok resolved hok
  have hreply : teleport.answer.map (fun _ => Reply.done) = (realm.arrival player id).answer :=
    hanswer
  have hplan : teleport.state = (realm.arrival player id).apply player realm := hstate
  have hinside : (realm.enter player id).standing player = (realm.standing player).inside id :=
    ((Step.enter id).standing_apply_self player realm).trans
      (Step.after_enter_of_admitted sides hok)
  rw [arrival_eq bars hi] at hreply hplan
  -- the answer of the world decides whether the player is moved or taken out again
  by_cases hmoved : outcome = .moved
  · rw [if_pos hmoved] at hreply hplan
    refine .inl ⟨hmoved, ?_, ?_, ?_⟩
    · cases hteleport : teleport.answer with
      | ok => rfl
      | error refusal =>
        rw [hteleport] at hreply
        cases hreply
    · rw [hplan]
      refine ((Step.move i.entry).standing_apply_self player (realm.enter player id)).trans ?_
      rw [hinside]
      rfl
    · rw [hplan]
      exact Plan.confined ⟨_, [.enter id, .move i.entry]⟩ player realm
  · rw [if_neg hmoved] at hreply hplan
    refine .inr ⟨hmoved, ?_, ?_, ?_⟩
    · cases hteleport : teleport.answer with
      | ok =>
        rw [hteleport] at hreply
        cases hreply
      | error refusal =>
        rw [hteleport] at hreply
        exact congrArg Except.error (Except.error.inj hreply)
    · rw [hplan]
      refine (Step.leave.standing_apply_self player (realm.enter player id)).trans ?_
      rw [hinside, Step.after_leave_inside]
    · rw [hplan]
      exact Plan.confined ⟨_, [.enter id, .leave]⟩ player realm

end Realm

open Realm in
/-- **The three ends of a teleport**, in every state that calls can lead to, in whatever way
the world goes on between them, as long as barred positions refuse. A player who would not be
let in is refused for that, and nothing changes. Of one who would be, it is the answer of the
world to the move that decides: if it is no success, this is what the teleport is refused for,
and the player is in no instance, is not noted anywhere and has not moved, whether or not the
player was in before; if it is, the player is in the instance and in no other, is noted there
and stands at the entry. In either case the standing of all others and what all share are as
they were. So whoever is in an instance after a teleport that was refused was in it before. -/
theorem Run.teleport_outcomes {drift : MemoryWorld → MemoryWorld → Prop} {s : TemplateSettings}
    {w : MemoryWorld} {log : List (Call × Except Refusal Reply)} {realm : Realm MemoryWorld}
    (run : Run drift ⟨.ofSettings s, w⟩ log realm) (bars : realm.world.BarsRefuse)
    (id : InstanceId) (player : PlayerId) :
    let alone := (bindPlayer player id).run realm
    let teleport := (teleportInto id player).run realm
    ((∃ refusal, alone.answer = .error refusal ∧ teleport.answer = .error refusal ∧
        teleport.state = realm) ∨
      ∃ i, alone.answer = .ok () ∧ realm.registry.instances[id]? = some i ∧
        let outcome := ((World.relocate player i.entry true : Action MemoryWorld _).run
          alone.state.world).answer
        (outcome ≠ .moved ∧ teleport.answer = .error (.relocation outcome) ∧
          teleport.state.standing player = (realm.standing player).outside ∧
          teleport.state.world.instanceOf player = none ∧
          Confined [player] [] realm teleport.state) ∨
        (outcome = .moved ∧ teleport.answer = .ok () ∧
          teleport.state.standing player = ((realm.standing player).inside id).movedTo i.entry ∧
          teleport.state.world.instanceOf player = some id ∧
          (teleport.state.world.players[player]?.map PlayerRecord.position) = some i.entry ∧
          Confined [player] [(player, i.entry)] realm teleport.state)) ∧
    ∀ refusal, teleport.answer = .error refusal → ∀ j,
      teleport.state.registry.isPlayerBound player j = true →
        realm.registry.isPlayerBound player j = true := by
  intro alone teleport
  have resolved := run.templatesResolved
  have sides := run.consistent.tallied.sides
  have halone : alone.answer = realm.verdict player id := answer_bindPlayer player id realm
  cases hverdict : realm.verdict player id with
  | error refusal =>
    obtain ⟨hanswer, hstate⟩ := run_teleportInto_of_error hverdict
    refine ⟨.inl ⟨refusal, halone.trans hverdict, hanswer, hstate⟩, fun _ _ j hj => ?_⟩
    rwa [hstate] at hj
  | ok =>
    obtain ⟨seen, i, hseen, hi, -⟩ := Registry.verdict_eq_ok_iff.mp hverdict
    have houtcome : ((World.relocate player i.entry true : Action MemoryWorld _).run
        alone.state.world).answer = (realm.world.moveOutcome player i.entry true).1 :=
      answer_relocate_of_ok hverdict i.entry
    rcases teleportInto_of_ok resolved sides bars hverdict hi with
      ⟨hmoved, hanswer, hstanding, hconfined⟩ | ⟨hbarred, hanswer, hstanding, hconfined⟩
    · obtain ⟨record, hrecord, -⟩ := MemoryWorld.info?_eq_some_iff.mp hseen
      have hafter : teleport.state.world.players[player]?
          = some { record with instance? := some id, position := i.entry } := by
        refine (congrArg Standing.record hstanding).trans ?_
        simp only [Standing.movedTo, Standing.inside, standing, hrecord, Option.map_some]
      refine ⟨.inr ⟨i, halone.trans hverdict, hi, .inr ⟨houtcome.trans hmoved, hanswer, hstanding,
        ?_, ?_, hconfined⟩⟩, fun refusal hrefused => ?_⟩
      · rw [MemoryWorld.instanceOf, hafter]
        rfl
      · rw [hafter]
        rfl
      · cases hanswer.symm.trans hrefused
    · refine ⟨.inr ⟨i, halone.trans hverdict, hi, .inl ⟨fun h => hbarred (houtcome.symm.trans h),
        ?_, hstanding, instanceOf_of_outside hstanding, hconfined⟩⟩, fun _ _ j hj => ?_⟩
      · rw [houtcome]
        exact hanswer
      · have hout : teleport.state.registry.isPlayerBound player j = false :=
          congrFun (congrArg Standing.listed hstanding) j
        cases hout.symm.trans hj

/-- A player who is in an instance is teleported into it and the entry has no room: the teleport
is refused for that, and the player, who has not moved, is out of the instance. -/
theorem Run.barred_teleport_takes_out :
    ∃ log realm, Run MemoryWorld.Change ⟨.ofSettings .usual, MemoryWorld.trio⟩ log realm ∧
      log.map Prod.fst = [.create { Blueprint.plain with entry := ⟨100, 100, 7⟩ } .epoch,
        .bindPlayer ⟨1⟩ ⟨1⟩] ∧
      realm.world.BarsRefuse ∧ realm.registry.isPlayerBound ⟨1⟩ ⟨1⟩ = true ∧
      let teleport := (Realm.teleportInto ⟨1⟩ ⟨1⟩).run realm
      teleport.answer = .error (.relocation .destinationOccupied) ∧
        teleport.state.standing ⟨1⟩ = (realm.standing ⟨1⟩).outside ∧
        teleport.state.world.relocations = [] := by
  have opened : Run MemoryWorld.Change ⟨.ofSettings .usual, MemoryWorld.trio⟩ _ _ :=
    .call (.create { Blueprint.plain with entry := ⟨100, 100, 7⟩ } .epoch) .start
      fun _ _ => ⟨0, by decide +kernel⟩
  have run := (opened.call (.bindPlayer ⟨1⟩ ⟨1⟩) trivial).drift
    (.block ⟨100, 100, 7⟩ .destinationOccupied)
  have bars : ∀ w : MemoryWorld, w.blocked = ∅ →
      (w.block ⟨100, 100, 7⟩ .destinationOccupied).BarsRefuse := fun w h =>
    (MemoryWorld.barsRefuse_of_blocked_eq_empty h).block (by decide)
  refine ⟨_, _, run, rfl, bars _ rfl, rfl, ?_⟩
  intro teleport
  have hanswer : teleport.answer = .error (.relocation .destinationOccupied) := by decide +kernel
  obtain ⟨hends, -⟩ := run.teleport_outcomes (bars _ rfl) ⟨1⟩ ⟨1⟩
  rcases hends with
    ⟨refusal, hdeclined, -⟩ | ⟨i, -, -, ⟨-, -, hout, -, hconfined⟩ | ⟨-, hdone, -⟩⟩
  · cases hdeclined
  · exact ⟨hanswer, hout, hconfined.moves_eq⟩
  · cases hanswer.symm.trans hdone

end InstancedZones
