import InstancedZones.Proofs.Entering

/-!
# How a player stands, and what all players share

Over a world in memory a realm falls into pieces: for each player the player's
`Realm.standing`, that is the index entry, the lists the player is on and the world's
record of the player; and the `Realm.setting` that all share, the open instances without
their players, the templates, and the world without its players. Beside these there is
only the record of moves. Two realms with the same pieces are the same,
`Realm.ext_standing`.

What a single player does comes down to three steps: coming in, leaving, and being moved.
A step of one player leaves the setting and the standing of all others as they are, and
how the player stands after it is told by the setting and by how the player stood
before. So it is blind to what the others do. Hence what has happened after steps of some
players is `Realm.Confined` to these; and if each of them makes the same step, each stands
as if nobody else had made any, `Realm.Step.standing_foldl_apply`.
-/

namespace InstancedZones

/-- How a player stands in a realm. -/
structure Standing where
  /-- The instance of the index. -/
  member : Option InstanceId
  /-- Whether an open instance lists the player. -/
  listed : InstanceId → Bool
  /-- The world's record of the player. -/
  record : Option PlayerRecord

/-- What all players share. -/
structure Setting where
  /-- The open instances, with nobody in them. -/
  instances : InstanceId → Option Instance
  /-- The map templates dealt with. -/
  templates : TemplateCache
  /-- Where the search for the next identity starts. -/
  nextId : InstanceId
  /-- The world, without its players and the moves made. -/
  world : MemoryWorld

namespace Standing

/-- How a player stands who has come into an instance and is in no other. -/
def inside (s : Standing) (id : InstanceId) : Standing where
  member := some id
  listed := fun j => decide (id = j)
  record := s.record.map ({ · with instance? := some id })

/-- How a player stands who has been taken out and is in no instance. -/
def outside (s : Standing) : Standing where
  member := none
  listed := fun _ => false
  record := s.record.map ({ · with instance? := none })

end Standing

/-- The instance with nobody in it. -/
def Instance.vacated (i : Instance) : Instance := { i with players := ∅ }

namespace Realm

variable {realm realm' realm'' : Realm MemoryWorld} {player q : PlayerId} {id j : InstanceId}

/-- How a player stands. -/
def standing (realm : Realm MemoryWorld) (player : PlayerId) : Standing where
  member := realm.registry.instanceOf player
  listed := realm.registry.isPlayerBound player
  record := realm.world.players[player]?

/-- What all players share. -/
def setting (realm : Realm MemoryWorld) : Setting where
  instances id := realm.registry.instances[id]?.map Instance.vacated
  templates := realm.registry.templates
  nextId := realm.registry.nextId
  world := { realm.world with players := ∅, relocations := [] }

/-- The setting tells which instances are open. -/
theorem mem_instances_iff_of_setting (h : realm'.setting = realm.setting) (id : InstanceId) :
    id ∈ realm'.registry.instances ↔ id ∈ realm.registry.instances := by
  have hinstances := congrFun (congrArg Setting.instances h) id
  have hsome := congrArg Option.isSome hinstances
  simp only [setting, Option.isSome_map] at hsome
  rw [Std.ExtTreeMap.mem_iff_isSome_getElem?, hsome, Std.ExtTreeMap.mem_iff_isSome_getElem?]

/-- **An instance that is the same but for its players** is the same if it lists the same
players. -/
theorem getElem?_instances_ext (hsetting : realm'.setting = realm.setting)
    (hplayers : ∀ q, realm'.registry.isPlayerBound q id = realm.registry.isPlayerBound q id) :
    realm'.registry.instances[id]? = realm.registry.instances[id]? := by
  have hvacated := congrFun (congrArg Setting.instances hsetting) id
  simp only [setting, Registry.isPlayerBound] at hvacated hplayers
  cases hi' : realm'.registry.instances[id]? with
  | none =>
    rw [hi', Option.map_none] at hvacated
    exact (Option.map_eq_none_iff.mp hvacated.symm).symm
  | some i' =>
    rw [hi', Option.map_some] at hvacated
    obtain ⟨i, hi, hfields⟩ := Option.map_eq_some_iff.mp hvacated.symm
    rw [hi', hi] at hplayers
    have hsame : i'.players = i.players := Std.ExtTreeSet.ext_contains hplayers
    -- with nobody in them they are the same, and the same players are in them
    have heq : { i'.vacated with players := i'.players }
        = { i.vacated with players := i.players } := by
      rw [hsame, hfields]
    rw [hi]
    exact congrArg some heq

/-- **A realm is the setting, the standings and the moves made.** -/
theorem ext_standing (hsetting : realm'.setting = realm.setting)
    (hstanding : ∀ q, realm'.standing q = realm.standing q) :
    realm'.registry = realm.registry ∧
      { realm'.world with relocations := [] } = { realm.world with relocations := [] } := by
  have hinstances : realm'.registry.instances = realm.registry.instances :=
    Std.ExtTreeMap.ext_getElem? fun id => getElem?_instances_ext hsetting fun q =>
      congrFun (congrArg Standing.listed (hstanding q)) id
  have hmembers : realm'.registry.members = realm.registry.members :=
    Std.ExtTreeMap.ext_getElem? fun q => congrArg Standing.member (hstanding q)
  have hplayers : realm'.world.players = realm.world.players :=
    Std.ExtTreeMap.ext_getElem? fun q => congrArg Standing.record (hstanding q)
  have htemplates : realm'.registry.templates = realm.registry.templates :=
    congrArg Setting.templates hsetting
  have hnext : realm'.registry.nextId = realm.registry.nextId := congrArg Setting.nextId hsetting
  have hworld := congrArg Setting.world hsetting
  constructor
  · show (⟨realm'.registry.instances, realm'.registry.members, realm'.registry.templates,
      realm'.registry.nextId⟩ : Registry) = _
    rw [hinstances, hmembers, htemplates, hnext]
  · have hrest : ∀ w : MemoryWorld, ({ w with relocations := [] } : MemoryWorld)
        = { ({ w with players := ∅, relocations := [] } : MemoryWorld) with
            players := w.players } := fun _ => rfl
    rw [hrest realm'.world, hrest realm.world, hplayers]
    exact congrArg (fun w : MemoryWorld => { w with players := realm.world.players }) hworld

/-- Two realms that are **alike to a player**: they share the setting, and the player
stands the same in both. -/
structure Alike (player : PlayerId) (realm realm' : Realm MemoryWorld) : Prop where
  setting_eq : realm'.setting = realm.setting
  standing_eq : realm'.standing player = realm.standing player

/-- Who has been let in and stands inside is noted there. -/
theorem instanceOf_of_inside (hok : realm.verdict player id = .ok ())
    (h : realm'.standing player = (realm.standing player).inside id) :
    realm'.world.instanceOf player = some id := by
  obtain ⟨seen, -, hseen, -⟩ := Registry.verdict_eq_ok_iff.mp hok
  obtain ⟨record, hrecord, -⟩ := MemoryWorld.info?_eq_some_iff.mp hseen
  have hafter : realm'.world.players[player]?
      = realm.world.players[player]?.map ({ · with instance? := some id }) :=
    congrArg Standing.record h
  rw [MemoryWorld.instanceOf, hafter, hrecord]
  rfl

/-- Who stands outside is not noted anywhere. -/
theorem instanceOf_of_outside (h : realm'.standing player = (realm.standing player).outside) :
    realm'.world.instanceOf player = none := by
  have hafter : realm'.world.players[player]?
      = realm.world.players[player]?.map ({ · with instance? := none }) :=
    congrArg Standing.record h
  rw [MemoryWorld.instanceOf, hafter]
  cases realm.world.players[player]? <;> rfl

/-! ## The steps of a player -/

/-- What a player's state is changed by. -/
inductive Step
  /-- The player comes into an instance. -/
  | enter (id : InstanceId)
  /-- The player leaves the instance the player is in. -/
  | leave
  /-- The player is moved. -/
  | move (target : Position)

/-- The realm after a step of a player. -/
def Step.apply (player : PlayerId) (realm : Realm MemoryWorld) : Step → Realm MemoryWorld
  | .enter id => realm.enter player id
  | .leave => realm.leave player
  | .move target => { realm with world := realm.world.move player target }

/-- The moves that are written down of a step. -/
def Step.moves (player : PlayerId) : Step → List (PlayerId × Position)
  | .move target => [(player, target)]
  | _ => []

/-- How the player stands after a step, `isOpen` telling which instances are open. -/
def Step.after (isOpen : InstanceId → Bool) (s : Standing) : Step → Standing
  | .enter id =>
    { member := some id
      listed := fun j => s.listed j || (decide (id = j) && isOpen id)
      record := s.record.map ({ · with instance? := some id }) }
  | .leave =>
    match s.member with
    | none => s
    | some id =>
      { member := none
        listed := fun j => s.listed j && !decide (id = j)
        record := s.record.map ({ · with instance? := none }) }
  | .move target => { s with record := s.record.map ({ · with position := target }) }

namespace Step

/-- Whether a list of players has somebody on it does not show once it is emptied. -/
theorem vacated_getElem?_modify (r : Registry) (id j : InstanceId)
    (f : Std.ExtTreeSet PlayerId → Std.ExtTreeSet PlayerId) :
    (r.instances.modify id fun i => { i with players := f i.players })[j]?.map Instance.vacated
      = r.instances[j]?.map Instance.vacated := by
  rw [Table.getElem?_modify]
  split
  · cases r.instances[j]? <;> rfl
  · rfl

/-- **A step leaves the setting as it is.** -/
theorem setting_apply (step : Step) (player : PlayerId) (realm : Realm MemoryWorld) :
    (step.apply player realm).setting = realm.setting := by
  cases step with
  | enter id =>
    have hinstances :
        (fun j => (realm.registry.enroll player id).instances[j]?.map Instance.vacated)
          = fun j => realm.registry.instances[j]?.map Instance.vacated :=
      funext fun j => vacated_getElem?_modify realm.registry id j (·.insert player)
    exact congrArg (fun instances => ({ realm.setting with instances } : Setting)) hinstances
  | leave =>
    unfold apply Realm.leave
    cases hin : realm.registry.instanceOf player with
    | none => rfl
    | some id =>
      have hinstances :
          (fun j => (realm.registry.withdraw player id).instances[j]?.map Instance.vacated)
            = fun j => realm.registry.instances[j]?.map Instance.vacated :=
        funext fun j => vacated_getElem?_modify realm.registry id j (·.erase player)
      exact congrArg (fun instances => ({ realm.setting with instances } : Setting)) hinstances
  | move target => rfl

/-- What a step adds to the record of moves. -/
theorem relocations_apply (step : Step) (player : PlayerId) (realm : Realm MemoryWorld) :
    (step.apply player realm).world.relocations
      = realm.world.relocations ++ step.moves player := by
  cases step with
  | enter id => exact (List.append_nil _).symm
  | leave =>
    unfold apply Realm.leave
    cases realm.registry.instanceOf player <;> exact (List.append_nil _).symm
  | move target => rfl

/-- **A step leaves the standing of all others as it is.** -/
theorem standing_apply_of_ne (h : player ≠ q) (step : Step) (realm : Realm MemoryWorld) :
    (step.apply player realm).standing q = realm.standing q := by
  cases step with
  | enter id =>
    have hlisted : (realm.registry.enroll player id).isPlayerBound q
        = realm.registry.isPlayerBound q := by
      funext j
      rw [Bool.eq_iff_iff, Registry.isPlayerBound_enroll]
      simp [h]
    unfold apply Realm.enter standing
    rw [Registry.instanceOf_enroll, hlisted, MemoryWorld.getElem?_noteInstance, if_neg h, if_neg h]
  | leave =>
    unfold apply Realm.leave
    cases hin : realm.registry.instanceOf player with
    | none => rfl
    | some id =>
      have hlisted : (realm.registry.withdraw player id).isPlayerBound q
          = realm.registry.isPlayerBound q := by
        funext j
        rw [Bool.eq_iff_iff, Registry.isPlayerBound_withdraw]
        simp [h]
      unfold standing
      dsimp only
      rw [Registry.instanceOf_withdraw, hlisted, MemoryWorld.getElem?_noteInstance, if_neg h,
        if_neg h]
  | move target =>
    unfold apply standing
    dsimp only
    rw [MemoryWorld.getElem?_move, if_neg h]

/-- **How the player stands after a step** is told by what is open and by how the player
stood before. -/
theorem standing_apply_self (step : Step) (player : PlayerId) (realm : Realm MemoryWorld) :
    (step.apply player realm).standing player
      = step.after (fun id => decide (id ∈ realm.registry.instances)) (realm.standing player) := by
  cases step with
  | enter id =>
    have hlisted : (realm.registry.enroll player id).isPlayerBound player
        = fun j => realm.registry.isPlayerBound player j ||
            (decide (id = j) && decide (id ∈ realm.registry.instances)) := by
      funext j
      rw [Bool.eq_iff_iff, Registry.isPlayerBound_enroll]
      simp
    unfold apply Realm.enter standing
    dsimp only
    rw [Registry.instanceOf_enroll, hlisted, MemoryWorld.getElem?_noteInstance, if_pos rfl,
      if_pos rfl]
    rfl
  | leave =>
    unfold apply Realm.leave after standing
    cases hin : realm.registry.instanceOf player with
    | none => simp only [hin]
    | some id =>
      have hlisted : (realm.registry.withdraw player id).isPlayerBound player
          = fun j => realm.registry.isPlayerBound player j && !decide (id = j) := by
        funext j
        rw [Bool.eq_iff_iff, Registry.isPlayerBound_withdraw]
        simp
      dsimp only
      rw [Registry.instanceOf_withdraw, hlisted, MemoryWorld.getElem?_noteInstance, if_pos rfl,
        if_pos rfl]
  | move target =>
    unfold apply standing
    dsimp only
    rw [MemoryWorld.getElem?_move, if_pos rfl]
    rfl

/-- **A step takes realms that are alike to the player to realms that are.** -/
theorem alike_apply (h : Alike player realm realm') (step : Step) :
    Alike player (step.apply player realm) (step.apply player realm') where
  setting_eq := by
    rw [setting_apply, setting_apply]
    exact h.setting_eq
  standing_eq := by
    have hopen : (fun id => decide (id ∈ realm'.registry.instances))
        = fun id => decide (id ∈ realm.registry.instances) :=
      funext fun id => decide_eq_decide.mpr (mem_instances_iff_of_setting h.setting_eq id)
    rw [standing_apply_self, standing_apply_self, h.standing_eq, hopen]

end Step

/-! ## What is confined to some players -/

/-- **What has happened is confined to some players**: between one realm and another what
all share and how everybody else stands have not changed, and of moves no others have been
written down than these. -/
structure Confined (players : List PlayerId) (moves : List (PlayerId × Position))
    (realm realm' : Realm MemoryWorld) : Prop where
  /-- What all players share is what it was. -/
  setting_eq : realm'.setting = realm.setting
  /-- Everybody else stands as before. -/
  others : ∀ q, q ∉ players → realm'.standing q = realm.standing q
  /-- These moves have been written down. -/
  moves_eq : realm'.world.relocations = realm.world.relocations ++ moves

namespace Confined

variable {players players' : List PlayerId} {moves moves' : List (PlayerId × Position)}

theorem refl (players : List PlayerId) (realm : Realm MemoryWorld) :
    Confined players [] realm realm :=
  ⟨rfl, fun _ _ => rfl, (List.append_nil _).symm⟩

/-- First what is confined to some, then what is confined to others. -/
theorem trans (h : Confined players moves realm realm')
    (h' : Confined players' moves' realm' realm'') :
    Confined (players ++ players') (moves ++ moves') realm realm'' where
  setting_eq := h'.setting_eq.trans h.setting_eq
  others _ hq := by
    rw [List.mem_append, not_or] at hq
    exact (h'.others _ hq.2).trans (h.others _ hq.1)
  moves_eq := by rw [h'.moves_eq, h.moves_eq, List.append_assoc]

theorem mono (h : Confined players moves realm realm') (hsub : players ⊆ players') :
    Confined players' moves realm realm' where
  setting_eq := h.setting_eq
  others _ hq := h.others _ fun hmem => hq (hsub hmem)
  moves_eq := h.moves_eq

/-- **An instance is as it was** if it lists the same of the players concerned. -/
theorem getElem?_instances (h : Confined players moves realm realm')
    (hplayers : ∀ q ∈ players,
      realm'.registry.isPlayerBound q id = realm.registry.isPlayerBound q id) :
    realm'.registry.instances[id]? = realm.registry.instances[id]? := by
  refine getElem?_instances_ext h.setting_eq fun q => ?_
  by_cases hq : q ∈ players
  · exact hplayers q hq
  · exact congrFun (congrArg Standing.listed (h.others q hq)) id

/-- **What is confined to some players is told by how these stand** in the end. -/
theorem unique (h : Confined players moves realm realm') (h' : Confined players moves realm realm'')
    (hsame : ∀ q ∈ players, realm'.standing q = realm''.standing q) : realm' = realm'' := by
  have hstanding : ∀ q, realm'.standing q = realm''.standing q := by
    intro q
    by_cases hq : q ∈ players
    · exact hsame q hq
    · exact (h.others q hq).trans (h'.others q hq).symm
  obtain ⟨hregistry, hworld⟩ := ext_standing (h.setting_eq.trans h'.setting_eq.symm) hstanding
  have hall := MemoryWorld.ext_relocations hworld (h.moves_eq.trans h'.moves_eq.symm)
  show (⟨realm'.registry, realm'.world⟩ : Realm MemoryWorld) = ⟨realm''.registry, realm''.world⟩
  rw [hregistry, hall]

end Confined

namespace Step

/-- **A step is confined to the player.** -/
theorem confined (step : Step) (player : PlayerId) (realm : Realm MemoryWorld) :
    Confined [player] (step.moves player) realm (step.apply player realm) where
  setting_eq := step.setting_apply player realm
  others _ hq := step.standing_apply_of_ne (Ne.symm (List.ne_of_not_mem_cons hq)) realm
  moves_eq := step.relocations_apply player realm

variable {players : List PlayerId}

/-- Steps of several players are confined to these. -/
theorem confined_foldl_apply (step : Step) (players : List PlayerId) (realm : Realm MemoryWorld) :
    Confined players (players.flatMap fun player => step.moves player) realm
      (players.foldl (fun realm player => step.apply player realm) realm) := by
  induction players generalizing realm with
  | nil => exact .refl [] realm
  | cons player rest ih => exact (step.confined player realm).trans (ih (step.apply player realm))

/-- **Each stands as if nobody else had made the step**, if nobody makes it twice. -/
theorem standing_foldl_apply (step : Step) (hnodup : players.Nodup) (hq : q ∈ players)
    (realm : Realm MemoryWorld) :
    (players.foldl (fun realm player => step.apply player realm) realm).standing q
      = step.after (fun id => decide (id ∈ realm.registry.instances)) (realm.standing q) := by
  induction players generalizing realm with
  | nil => cases hq
  | cons player rest ih =>
    obtain ⟨hplayer, hrest⟩ := List.nodup_cons.mp hnodup
    rw [List.foldl_cons]
    rcases List.mem_cons.mp hq with rfl | hlater
    · rw [(step.confined_foldl_apply rest _).others q hplayer, standing_apply_self]
    · have hne : player ≠ q := fun heq => hplayer (heq ▸ hlater)
      have hopen : (fun id => decide (id ∈ (step.apply player realm).registry.instances))
          = fun id => decide (id ∈ realm.registry.instances) :=
        funext fun id => decide_eq_decide.mpr
          (mem_instances_iff_of_setting (step.setting_apply player realm) id)
      rw [ih hrest hlater, step.standing_apply_of_ne hne, hopen]

/-- **Whoever is let in is inside**, and in no other instance, if the two sides of
membership agree. -/
theorem after_enter_of_admitted (sides : realm.registry.SidesAgree)
    (hok : realm.verdict player id = .ok ()) :
    (Step.enter id).after (fun id => decide (id ∈ realm.registry.instances))
        (realm.standing player)
      = (realm.standing player).inside id := by
  have hlisted : (fun j => realm.registry.isPlayerBound player j ||
      (decide (id = j) && decide (id ∈ realm.registry.instances))) = fun j => decide (id = j) := by
    funext j
    rw [decide_eq_true (sides.of_verdict_ok hok).1, Bool.and_true, Bool.or_eq_right_iff_imp,
      decide_eq_true_iff]
    exact eq_of_isPlayerBound_of_admitted sides hok
  exact congrArg (fun listed => (⟨some id, listed, _⟩ : Standing)) hlisted

/-- Whoever has come in and leaves again is outside. -/
theorem after_leave_inside (isOpen : InstanceId → Bool) (s : Standing) (id : InstanceId) :
    Step.leave.after isOpen (s.inside id) = s.outside := by
  have hlisted : (fun j => decide (id = j) && !decide (id = j)) = fun _ => false :=
    funext fun j => Bool.and_not_self _
  have hrecord : ((s.inside id).record.map fun r => { r with instance? := none })
      = s.outside.record := by
    cases hr : s.record <;> simp [Standing.inside, Standing.outside, hr]
  show (⟨none, fun j => decide (id = j) && !decide (id = j), _⟩ : Standing) = _
  rw [hlisted, hrecord]
  rfl

end Step

end Realm

end InstancedZones
