import InstancedZones.Proofs.ResolvedTemplates
import InstancedZones.Proofs.Standing

/-!
# Players do not get in each other's way

A player who comes in, is teleported in or leaves makes a `Visit`. Where the templates of
the open instances are resolved, what becomes of a visit is a `Plan`, an answer and some
steps of the player, and the plan is made from the setting and the player's own standing,
`Visit.plan_eq_of_alike`. Since the steps of another player change neither, it does not
matter whose visit comes first: the answers are the same, and so is the realm that is
left, but for the order in which the moves of the two are written down,
`Run.visits_commute`.

For teleports this rests on the templates: one that was not resolved would be merged by
the first of the two, and found resolved by the second.
-/

namespace InstancedZones

namespace MemoryWorld

variable {w : MemoryWorld} {player : PlayerId} {target : Position} {mustBeOnline : Bool}

/-- Only a move that succeeds takes place. -/
theorem moved_of_moves (h : (w.moveOutcome player target mustBeOnline).2 = true) :
    (w.moveOutcome player target mustBeOnline).1 = .moved := by
  unfold moveOutcome at h ⊢
  split at h
  · cases h
  · split at h
    · cases h
    · split at h
      · cases h
      · next hmust _ _ => simp [hmust]

/-- A note does not bar a move. -/
theorem moveOutcome_noteInstance (id : Option InstanceId) :
    (w.noteInstance player id).moveOutcome player target mustBeOnline
      = w.moveOutcome player target mustBeOnline := by
  unfold moveOutcome
  rw [getElem?_noteInstance, if_pos rfl]
  cases w.players[player]? <;> rfl

end MemoryWorld

namespace Realm

/-- What a player can do alone. -/
inductive Visit
  /-- The player comes into an instance. -/
  | bind (id : InstanceId)
  /-- The player is teleported into an instance. -/
  | teleport (id : InstanceId)
  /-- The player leaves. -/
  | leave

/-- The call that a visit of a player is. -/
def Visit.call (player : PlayerId) : Visit → Call
  | .bind id => .bindPlayer player id
  | .teleport id => .teleportInto id player
  | .leave => .playerLeave player

/-- What becomes of a visit. -/
structure Plan where
  /-- What is answered. -/
  answer : Except Refusal Reply
  /-- The steps that the player makes. -/
  steps : List Step

variable {realm realm' : Realm MemoryWorld} {player p q : PlayerId} {id : InstanceId}

/-- What becomes of a player who has been let into an instance and is sent to its entry:
the player leaves again if the way is barred. -/
def arrival (realm : Realm MemoryWorld) (player : PlayerId) (id : InstanceId) : Plan :=
  match realm.registry.instances[id]? with
  | none => ⟨.error (.notFound id), [.enter id]⟩
  | some i =>
    let (outcome, moves) := realm.world.moveOutcome player i.entry true
    if outcome.succeeded then ⟨.ok .done, .enter id :: if moves then [.move i.entry] else []⟩
    else ⟨.error (.relocation outcome), [.enter id, .leave]⟩

/-- **What becomes of a visit**, as things stand. -/
def Visit.plan (realm : Realm MemoryWorld) (player : PlayerId) : Visit → Plan
  | .bind id =>
    match realm.verdict player id with
    | .error refusal => ⟨.error refusal, []⟩
    | .ok () => ⟨.ok .done, [.enter id]⟩
  | .teleport id =>
    match realm.verdict player id with
    | .error refusal => ⟨.error refusal, []⟩
    | .ok () => realm.arrival player id
  | .leave =>
    match realm.registry.instanceOf player with
    | none => ⟨.ok (.answer false), []⟩
    | some _ => ⟨.ok (.answer true), [.leave]⟩

/-- The realm after the steps of a plan. -/
def Plan.apply (player : PlayerId) (realm : Realm MemoryWorld) (plan : Plan) : Realm MemoryWorld :=
  plan.steps.foldl (Step.apply player) realm

/-- The moves that are written down of a plan. -/
def Plan.moves (player : PlayerId) (plan : Plan) : List (PlayerId × Position) :=
  plan.steps.flatMap (Step.moves player)

/-! ## Visits go by their plans -/

/-- A teleport of a player who has been let in goes by the plan for the arrival. -/
theorem run_teleportInto_of_ok (h : realm.registry.TemplatesResolved)
    (hok : realm.verdict player id = .ok ()) :
    (((Visit.teleport id).call player).perform.run realm).answer
        = (realm.arrival player id).answer ∧
      (((Visit.teleport id).call player).perform.run realm).state
        = (realm.arrival player id).apply player realm := by
  obtain ⟨seen, i, -, hi, -⟩ := Registry.verdict_eq_ok_iff.mp hok
  have hentered : (realm.enter player id).registry.instances[id]?
      = some { i with players := i.players.insert player } := by
    rw [enter, Registry.getElem?_enroll, if_pos rfl, hi]
    rfl
  have hready : (readyTemplate i.mapTemplate).run (realm.enter player id)
      = ⟨.ok _, realm.enter player id, []⟩ := run_readyTemplate_of_isResolved (h id i hi)
  have hsame : (realm.enter player id).world.moveOutcome player i.entry true
      = realm.world.moveOutcome player i.entry true :=
    MemoryWorld.moveOutcome_noteInstance _
  unfold arrival
  rw [hi, Visit.call, Call.perform, Action.run_bind_pure, teleportInto, Action.run_bind,
    run_bindPlayer_of_ok hok]
  simp only [Action.run_bind, run_getRegistry, hentered, hready, run_onWorld,
    MemoryWorld.run_relocate, hsame]
  cases hmove : realm.world.moveOutcome player i.entry true with
  | mk outcome moves =>
    cases moves with
    | true =>
      have hmoved : outcome = .moved := by
        have := MemoryWorld.moved_of_moves (congrArg Prod.snd hmove)
        rwa [hmove] at this
      subst hmoved
      exact ⟨rfl, rfl⟩
    | false =>
      cases houtcome : outcome.succeeded with
      | true => simp [Except.map, Plan.apply, Step.apply]
      | false =>
        simp [Except.map, Plan.apply, Step.apply, run_playerLeave_state]

/-- **A visit goes by its plan** where the templates are resolved. -/
theorem Visit.run_call (h : realm.registry.TemplatesResolved) (player : PlayerId)
    (visit : Visit) :
    ((visit.call player).perform.run realm).answer = (visit.plan realm player).answer ∧
      ((visit.call player).perform.run realm).state
        = (visit.plan realm player).apply player realm := by
  cases visit with
  | bind id =>
    unfold plan
    rw [call, Call.perform, Action.run_bind_pure]
    dsimp only
    cases hverdict : realm.verdict player id with
    | error refusal =>
      rw [run_bindPlayer_of_error hverdict]
      exact ⟨rfl, rfl⟩
    | ok =>
      rw [run_bindPlayer_of_ok hverdict]
      exact ⟨rfl, rfl⟩
  | teleport id =>
    unfold plan
    dsimp only
    cases hverdict : realm.verdict player id with
    | error refusal =>
      rw [call, Call.perform, Action.run_bind_pure, teleportInto, Action.run_bind,
        run_bindPlayer_of_error hverdict]
      exact ⟨rfl, rfl⟩
    | ok => exact run_teleportInto_of_ok h hverdict
  | leave =>
    unfold plan
    rw [call, Call.perform, Action.run_bind_pure]
    dsimp only
    rw [run_playerLeave_state]
    unfold playerLeave Realm.leave
    rw [Action.run_bind, run_getRegistry]
    cases hin : realm.registry.instanceOf player with
    | none => exact ⟨rfl, rfl⟩
    | some id =>
      refine ⟨rfl, ?_⟩
      simp [Plan.apply, Step.apply, Realm.leave, hin]

/-! ## What a plan is made from -/

/-- The verdict on a player is told by the setting and the player's standing. -/
theorem verdict_eq_of_alike (h : Alike player realm realm') (id : InstanceId) :
    realm'.verdict player id = realm.verdict player id := by
  have hmember : realm'.registry.members[player]? = realm.registry.members[player]? :=
    congrArg Standing.member h.standing_eq
  have hrecord : realm'.world.players[player]? = realm.world.players[player]? :=
    congrArg Standing.record h.standing_eq
  have hvacated := congrFun (congrArg Setting.instances h.setting_eq) id
  have hopen : ∀ current, realm'.registry.instances.contains current
      = realm.registry.instances.contains current := fun current => by
    rw [Bool.eq_iff_iff, Std.ExtTreeMap.contains_iff_mem, Std.ExtTreeMap.contains_iff_mem]
    exact mem_instances_iff_of_setting h.setting_eq current
  have helse : ∀ info, realm'.registry.elsewhere? player info id
      = realm.registry.elsewhere? player info id := fun info => by
    unfold Registry.elsewhere?
    simp only [hmember, hopen]
  have hinfo : realm'.world.info? player = realm.world.info? player := by
    unfold MemoryWorld.info?
    rw [hrecord]
  unfold verdict Registry.verdict
  rw [hinfo]
  cases realm.world.info? player with
  | none => rfl
  | some info =>
    simp only [helse]
    simp only [setting] at hvacated
    cases hi' : realm'.registry.instances[id]? with
    | none =>
      rw [hi', Option.map_none] at hvacated
      rw [Option.map_eq_none_iff.mp hvacated.symm]
    | some i' =>
      rw [hi', Option.map_some] at hvacated
      obtain ⟨i, hi, hfields⟩ := Option.map_eq_some_iff.mp hvacated.symm
      have hlevel : i.vacated.minLevel = i'.vacated.minLevel := congrArg Instance.minLevel hfields
      change i.minLevel = i'.minLevel at hlevel
      rw [hi]
      simp only [hlevel]

theorem arrival_eq_of_alike (h : Alike player realm realm') (id : InstanceId) :
    realm'.arrival player id = realm.arrival player id := by
  have hrecord : realm'.world.players[player]? = realm.world.players[player]? :=
    congrArg Standing.record h.standing_eq
  have hblocked : realm'.world.blocked = realm.world.blocked :=
    congrArg (fun s : Setting => s.world.blocked) h.setting_eq
  have hvacated := congrFun (congrArg Setting.instances h.setting_eq) id
  have houtcome : ∀ target, realm'.world.moveOutcome player target true
      = realm.world.moveOutcome player target true := fun target => by
    unfold MemoryWorld.moveOutcome
    rw [hrecord, hblocked]
  unfold arrival
  simp only [setting] at hvacated
  cases hi' : realm'.registry.instances[id]? with
  | none =>
    rw [hi', Option.map_none] at hvacated
    rw [Option.map_eq_none_iff.mp hvacated.symm]
  | some i' =>
    rw [hi', Option.map_some] at hvacated
    obtain ⟨i, hi, hfields⟩ := Option.map_eq_some_iff.mp hvacated.symm
    have hentry : i.vacated.entry = i'.vacated.entry := congrArg Instance.entry hfields
    change i.entry = i'.entry at hentry
    rw [hi]
    simp only [hentry, houtcome]

/-- **What becomes of a visit is told by the setting and the player's own standing.** -/
theorem Visit.plan_eq_of_alike (h : Alike player realm realm') (visit : Visit) :
    visit.plan realm' player = visit.plan realm player := by
  cases visit with
  | bind id =>
    unfold plan
    dsimp only
    rw [verdict_eq_of_alike h]
  | teleport id =>
    unfold plan
    dsimp only
    rw [verdict_eq_of_alike h, arrival_eq_of_alike h]
  | leave =>
    have hmember : realm'.registry.instanceOf player = realm.registry.instanceOf player :=
      congrArg Standing.member h.standing_eq
    unfold plan
    dsimp only
    rw [hmember]

/-! ## Steps of two players -/

namespace Plan

/-- **The steps of a plan** leave the setting and the others as they are, and add the
moves to the record. -/
theorem apply_frame (plan : Plan) (player : PlayerId) (realm : Realm MemoryWorld) :
    (plan.apply player realm).setting = realm.setting ∧
      (∀ q, player ≠ q → (plan.apply player realm).standing q = realm.standing q) ∧
      (plan.apply player realm).world.relocations
        = realm.world.relocations ++ plan.moves player := by
  obtain ⟨answer, steps⟩ := plan
  unfold apply moves
  dsimp only
  induction steps generalizing realm with
  | nil => exact ⟨rfl, fun _ _ => rfl, (List.append_nil _).symm⟩
  | cons step steps ih =>
    obtain ⟨hsetting, hothers, hmoves⟩ := ih (step.apply player realm)
    refine ⟨hsetting.trans (step.setting_apply player realm), fun q hne => ?_, ?_⟩
    · exact (hothers q hne).trans (step.standing_apply_of_ne hne realm)
    · rw [List.foldl_cons, hmoves, step.relocations_apply, List.flatMap_cons, List.append_assoc]

/-- The steps of a plan keep realms alike to the player. -/
theorem alike_apply (h : Alike player realm realm') (plan : Plan) :
    Alike player (plan.apply player realm) (plan.apply player realm') := by
  obtain ⟨answer, steps⟩ := plan
  unfold apply
  dsimp only
  induction steps generalizing realm realm' with
  | nil => exact h
  | cons step steps ih => exact ih (step.alike_apply h)

theorem mem_moves (plan : Plan) {move : PlayerId × Position} (h : move ∈ plan.moves player) :
    move.1 = player := by
  obtain ⟨step, -, hmove⟩ := List.mem_flatMap.mp h
  cases step with
  | move target =>
    obtain rfl := List.mem_singleton.mp hmove
    rfl
  | _ => cases hmove

/-- To another player a realm is the same after the steps of a plan. -/
theorem alike_of_ne (hne : player ≠ q) (plan : Plan) (realm : Realm MemoryWorld) :
    Alike q realm (plan.apply player realm) :=
  ⟨(plan.apply_frame player realm).1, (plan.apply_frame player realm).2.1 q hne⟩

/-- **Plans of two players can be carried out in either order**, but for the order of
their moves. -/
theorem apply_comm (hne : p ≠ q) (x y : Plan) (realm : Realm MemoryWorld) :
    (x.apply p (y.apply q realm)).registry = (y.apply q (x.apply p realm)).registry ∧
      { (x.apply p (y.apply q realm)).world with relocations := [] }
        = { (y.apply q (x.apply p realm)).world with relocations := [] } := by
  refine ext_standing ?_ fun z => ?_
  · rw [(x.apply_frame p _).1, (y.apply_frame q _).1, (y.apply_frame q _).1, (x.apply_frame p _).1]
  · by_cases hp : p = z
    · subst hp
      rw [(y.apply_frame q _).2.1 p hne.symm]
      exact (x.alike_apply (y.alike_of_ne hne.symm realm)).standing_eq
    · rw [(x.apply_frame p _).2.1 z hp]
      by_cases hq : q = z
      · subst hq
        exact (y.alike_apply (x.alike_of_ne hne realm)).standing_eq.symm
      · rw [(y.apply_frame q _).2.1 z hq, (y.apply_frame q _).2.1 z hq,
          (x.apply_frame p _).2.1 z hp]

end Plan

/-- Visits keep the templates of open instances resolved. -/
theorem Visit.templatesResolved (h : realm.registry.TemplatesResolved) (player : PlayerId)
    (visit : Visit) :
    ((visit.call player).perform.run realm).state.registry.TemplatesResolved := by
  refine stepsKeep_templatesResolved.perform _ h ?_
  cases visit <;> trivial

/-- **A visit goes by the plan made before the visit of another.** -/
theorem Visit.run_call_after (h : realm.registry.TemplatesResolved) (hne : p ≠ q)
    (x y : Visit) :
    ((y.call q).perform.run ((x.call p).perform.run realm).state).answer
        = (y.plan realm q).answer ∧
      ((y.call q).perform.run ((x.call p).perform.run realm).state).state
        = (y.plan realm q).apply q ((x.plan realm p).apply p realm) := by
  obtain ⟨hanswer, hstate⟩ := y.run_call (x.templatesResolved h p) q
  have hfirst := (x.run_call h p).2
  rw [hfirst] at hanswer hstate ⊢
  -- the other's steps change nothing that the plan is made from
  have hplan := y.plan_eq_of_alike ((x.plan realm p).alike_of_ne hne realm)
  rw [hplan] at hanswer hstate
  exact ⟨hanswer, hstate⟩

end Realm

open Realm in
/-- **Visits of different players commute.** In every state that calls can lead to, in
whatever way the world goes on between them: whichever of two players makes their visit
first, coming in, being teleported in or leaving, each is answered the same, the registry
that is left is the same, and so is the world, but that the moves of the one who came
first are written down first. -/
theorem Run.visits_commute {drift : MemoryWorld → MemoryWorld → Prop} {s : TemplateSettings}
    {w : MemoryWorld} {log : List (Call × Except Refusal Reply)} {realm : Realm MemoryWorld}
    (run : Run drift ⟨.ofSettings s, w⟩ log realm) {p q : PlayerId} (hne : p ≠ q)
    (x y : Visit) :
    let xFirst := (x.call p).perform.run realm
    let ySecond := (y.call q).perform.run xFirst.state
    let yFirst := (y.call q).perform.run realm
    let xSecond := (x.call p).perform.run yFirst.state
    xFirst.answer = xSecond.answer ∧ yFirst.answer = ySecond.answer ∧
      ySecond.state.registry = xSecond.state.registry ∧
      { ySecond.state.world with relocations := [] }
        = { xSecond.state.world with relocations := [] } ∧
      ∃ xMoves yMoves, (∀ move ∈ xMoves, move.1 = p) ∧ (∀ move ∈ yMoves, move.1 = q) ∧
        ySecond.state.world.relocations = realm.world.relocations ++ xMoves ++ yMoves ∧
        xSecond.state.world.relocations = realm.world.relocations ++ yMoves ++ xMoves := by
  have h : realm.registry.TemplatesResolved :=
    run.keeps stepsKeep_templatesResolved (fun _ _ h _ => h)
      (Registry.templatesResolved_ofSettings s)
  intro xFirst ySecond yFirst xSecond
  obtain ⟨hxFirst, -⟩ := x.run_call h p
  obtain ⟨hyFirst, -⟩ := y.run_call h q
  obtain ⟨hyAnswer, hySecond⟩ := x.run_call_after h hne y
  obtain ⟨hxAnswer, hxSecond⟩ := y.run_call_after h hne.symm x
  obtain ⟨hregistry, hworld⟩ := Plan.apply_comm hne (x.plan realm p) (y.plan realm q) realm
  refine ⟨hxFirst.trans hxAnswer.symm, hyFirst.trans hyAnswer.symm, ?_, ?_,
    (x.plan realm p).moves p, (y.plan realm q).moves q, fun _ => Plan.mem_moves _,
    fun _ => Plan.mem_moves _, ?_, ?_⟩
  · rw [hySecond, hxSecond]
    exact hregistry.symm
  · rw [hySecond, hxSecond]
    exact hworld.symm
  · rw [hySecond, ((y.plan realm q).apply_frame q _).2.2, ((x.plan realm p).apply_frame p _).2.2]
  · rw [hxSecond, ((x.plan realm p).apply_frame p _).2.2, ((y.plan realm q).apply_frame q _).2.2]

/-- Two players are teleported into the same instance: both are in it whoever is first,
and of the order only the record of moves tells. -/
theorem Run.teleports_of_trio_commute :
    ∃ log realm, Run (fun _ _ => False) ⟨.ofSettings .usual, MemoryWorld.trio⟩ log realm ∧
      let first := (Call.teleportInto ⟨1⟩ ⟨1⟩).perform.run realm
      let second := (Call.teleportInto ⟨1⟩ ⟨3⟩).perform.run first.state
      let second' := (Call.teleportInto ⟨1⟩ ⟨3⟩).perform.run realm
      let first' := (Call.teleportInto ⟨1⟩ ⟨1⟩).perform.run second'.state
      second.state.registry = first'.state.registry ∧
        first'.state.registry.isPlayerBound ⟨3⟩ ⟨1⟩ = true ∧
        second.state.world.relocations = [(⟨1⟩, .unset), (⟨3⟩, .unset)] ∧
        first'.state.world.relocations = [(⟨3⟩, .unset), (⟨1⟩, .unset)] := by
  have run := opened_trio fun _ _ => False
  obtain ⟨-, -, hregistry, -⟩ := run.visits_commute (p := ⟨1⟩) (q := ⟨3⟩) (by decide)
    (.teleport ⟨1⟩) (.teleport ⟨1⟩)
  exact ⟨_, _, run, hregistry, by decide +kernel, by decide +kernel, by decide +kernel⟩

end InstancedZones
