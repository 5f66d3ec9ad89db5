import InstancedZones.Proofs.ResolvedTemplates
import InstancedZones.Proofs.Standing

/-!
# How it is ruled on a player who asks to come in

What instance a player is in is known from two sides that may say different things: the index
of the registry, and the note of the world, which others may have written. The index goes
first, and the note counts only where the index says nothing, `Realm.current?`; and neither
counts if what it names has closed.

`Realm.Ruling` says in one clause for each answer when it is given, the clauses being in order
of priority: whoever is not connected is told so before anything is said of the instance, and
so on to the other instance the player is in. The registry rules just so, in every state and
in every world, `Realm.bindPlayer_as_ruled`. A player who is declined finds everything as it
was; one who is let in is on the list, in the index and in the note, and nothing else has
changed. Hence asking again is to no effect.
-/

namespace InstancedZones

namespace Registry

variable {r : Registry} {player : PlayerId} {id current : InstanceId}

/-- **What keeps a player elsewhere** is what is known of the player's instance, if that is
another one and open. -/
theorem elsewhere?_eq_some_iff {info : PlayerInfo} :
    r.elsewhere? player info id = some current
      ↔ (r.instanceOf player <|> info.instance?) = some current ∧ current ≠ id ∧
          current ∈ r.instances := by
  unfold elsewhere? instanceOf
  cases r.members[player]? <|> info.instance? with
  | none => simp
  | some known =>
    simp only [Option.ite_none_right_eq_some, Option.some.injEq, Std.ExtTreeMap.contains_iff_mem]
    constructor
    · rintro ⟨⟨hne, hopen⟩, rfl⟩
      exact ⟨rfl, hne, hopen⟩
    · rintro ⟨rfl, hne, hopen⟩
      exact ⟨⟨hne, hopen⟩, rfl⟩

end Registry

namespace Realm

variable {realm realm' : Realm MemoryWorld} {player q : PlayerId} {id j : InstanceId}
  {answer : Except Refusal Unit} {record : PlayerRecord} {i : Instance}

/-- **The instance a player counts as being in**: the one of the index, or where there is none
the one that the world has noted. -/
def current? (realm : Realm MemoryWorld) (player : PlayerId) : Option InstanceId :=
  realm.registry.instanceOf player <|> realm.world.instanceOf player

/-- **How it is ruled on a player** who asks to come into an instance. Each clause holds only
if those above it do not. -/
inductive Ruling (realm : Realm MemoryWorld) (player : PlayerId) (id : InstanceId) :
    Except Refusal Unit → Prop
  /-- The player is unknown or not connected. -/
  | unseen (absent : ∀ record, realm.world.players[player]? = some record →
      record.online = false) : Ruling realm player id (.error (.invalidPlayer player))
  /-- The instance is not open. -/
  | notOpen {record : PlayerRecord} (known : realm.world.players[player]? = some record)
      (online : record.online = true) (closed : id ∉ realm.registry.instances) :
      Ruling realm player id (.error (.notFound id))
  /-- The level does not suffice. -/
  | tooLow {record : PlayerRecord} {i : Instance}
      (known : realm.world.players[player]? = some record) (online : record.online = true)
      (isOpen : realm.registry.instances[id]? = some i) (low : record.level < i.minLevel) :
      Ruling realm player id (.error (.levelTooLow player record.level i.minLevel))
  /-- The player is in another open instance. -/
  | elsewhere {record : PlayerRecord} {i : Instance} {current : InstanceId}
      (known : realm.world.players[player]? = some record) (online : record.online = true)
      (isOpen : realm.registry.instances[id]? = some i) (high : i.minLevel ≤ record.level)
      (isIn : realm.current? player = some current) (other : current ≠ id)
      (stillOpen : current ∈ realm.registry.instances) :
      Ruling realm player id (.error (.alreadyBound player current))
  /-- Nothing speaks against it. -/
  | admitted {record : PlayerRecord} {i : Instance}
      (known : realm.world.players[player]? = some record) (online : record.online = true)
      (isOpen : realm.registry.instances[id]? = some i) (high : i.minLevel ≤ record.level)
      (free : ∀ current, realm.current? player = some current →
        current = id ∨ current ∉ realm.registry.instances) :
      Ruling realm player id (.ok ())

/-- Of a player who is connected it is seen what the record says. -/
theorem info?_of_known (known : realm.world.players[player]? = some record)
    (online : record.online = true) :
    realm.world.info? player = some ⟨record.level, record.instance?, record.home⟩ :=
  MemoryWorld.info?_eq_some_iff.mpr ⟨record, known, online, rfl⟩

/-- The note on a player is the one of the record. -/
theorem current?_of_known (known : realm.world.players[player]? = some record) :
    realm.current? player = (realm.registry.instanceOf player <|> record.instance?) := by
  rw [current?, MemoryWorld.instanceOf, known]
  rfl

/-- **Every player is ruled on**, in the way the verdict says. -/
theorem ruling_verdict (realm : Realm MemoryWorld) (player : PlayerId) (id : InstanceId) :
    realm.Ruling player id (realm.verdict player id) := by
  unfold verdict Registry.verdict
  cases hseen : realm.world.info? player with
  | none => exact .unseen (MemoryWorld.info?_eq_none_iff.mp hseen)
  | some seen =>
    obtain ⟨record, known, online, rfl⟩ := MemoryWorld.info?_eq_some_iff.mp hseen
    cases hi : realm.registry.instances[id]? with
    | none =>
      refine .notOpen known online fun hopen => ?_
      obtain ⟨i, hi'⟩ := Registry.mem_instances_iff.mp hopen
      cases hi.symm.trans hi'
    | some i =>
      dsimp only
      split
      · next hlow => exact .tooLow known online hi hlow
      · next hhigh =>
        have high := UInt32.not_lt.mp hhigh
        split
        · next current helse =>
          obtain ⟨isIn, other, stillOpen⟩ := Registry.elsewhere?_eq_some_iff.mp helse
          exact .elsewhere known online hi high ((current?_of_known known).trans isIn) other
            stillOpen
        · next hfree =>
          exact .admitted known online hi high fun current isIn =>
            Registry.elsewhere?_eq_none_iff.mp hfree current
              ((current?_of_known known).symm.trans isIn)

/-- **A player is ruled on in one way**, namely as the verdict says. -/
theorem Ruling.verdict_eq (h : realm.Ruling player id answer) :
    realm.verdict player id = answer := by
  unfold verdict Registry.verdict
  cases h with
  | unseen absent => rw [MemoryWorld.info?_eq_none_iff.mpr absent]
  | notOpen known online closed =>
    rw [info?_of_known known online, Std.ExtTreeMap.getElem?_eq_none closed]
  | tooLow known online isOpen low =>
    rw [info?_of_known known online, isOpen]
    exact if_pos low
  | elsewhere known online isOpen high isIn other stillOpen =>
    rw [info?_of_known known online, isOpen]
    dsimp only
    rw [if_neg (UInt32.not_lt.mpr high), Registry.elsewhere?_eq_some_iff.mpr
      ⟨(current?_of_known known).symm.trans isIn, other, stillOpen⟩]
  | admitted known online isOpen high free =>
    rw [info?_of_known known online, isOpen]
    dsimp only
    rw [if_neg (UInt32.not_lt.mpr high), Registry.elsewhere?_eq_none_iff.mpr
      fun current isIn => free current ((current?_of_known known).trans isIn)]

/-- The ruling on a player is the verdict. -/
theorem ruling_iff : realm.Ruling player id answer ↔ realm.verdict player id = answer :=
  ⟨Ruling.verdict_eq, fun h => h ▸ ruling_verdict realm player id⟩

/-! ## Coming in -/

/-- **A player has come into an instance**, and that is all that has changed from the first
realm to the second. -/
structure HasEntered (realm : Realm MemoryWorld) (player : PlayerId) (id : InstanceId)
    (realm' : Realm MemoryWorld) : Prop where
  /-- The instance lists the player besides those it listed; other instances are as they were. -/
  instances : ∀ j, realm'.registry.instances[j]?
    = if id = j then
        realm.registry.instances[j]?.map fun i => { i with players := i.players.insert player }
      else realm.registry.instances[j]?
  /-- The index has the player in the instance, and others where they were. -/
  members : ∀ q, realm'.registry.instanceOf q
    = if player = q then some id else realm.registry.instanceOf q
  /-- Of the player the instance is noted; the records of others are as they were. -/
  players : ∀ q, realm'.world.players[q]?
    = if player = q then realm.world.players[q]?.map ({ · with instance? := some id })
      else realm.world.players[q]?
  /-- No template has been dealt with. -/
  templates : realm'.registry.templates = realm.registry.templates
  /-- The counter has not moved. -/
  nextId : realm'.registry.nextId = realm.registry.nextId
  /-- The world is what it was but for the records of its players. -/
  world : { realm'.world with players := realm.world.players } = realm.world

theorem hasEntered_enter (realm : Realm MemoryWorld) (player : PlayerId) (id : InstanceId) :
    realm.HasEntered player id (realm.enter player id) where
  instances _ := Registry.getElem?_enroll
  members _ := Registry.instanceOf_enroll
  players _ := MemoryWorld.getElem?_noteInstance
  templates := rfl
  nextId := rfl
  world := rfl

/-- Coming in once more makes no difference to how a player stands. -/
theorem Step.after_enter_after_enter (isOpen : InstanceId → Bool) (s : Standing) :
    (Step.enter id).after isOpen ((Step.enter id).after isOpen s)
      = (Step.enter id).after isOpen s := by
  have hlisted : (fun j => (s.listed j || (decide (id = j) && isOpen id)) ||
      (decide (id = j) && isOpen id)) = fun j => s.listed j || (decide (id = j) && isOpen id) :=
    funext fun j => by rw [Bool.or_assoc, Bool.or_self]
  have hrecord : ((s.record.map ({ · with instance? := some id })).map
      ({ · with instance? := some id })) = s.record.map ({ · with instance? := some id }) :=
    Option.map_map ..
  exact congrArg₂ (fun listed record => (⟨some id, listed, record⟩ : Standing)) hlisted hrecord

/-- **Coming in twice is coming in once.** -/
theorem enter_enter (realm : Realm MemoryWorld) (player : PlayerId) (id : InstanceId) :
    (realm.enter player id).enter player id = realm.enter player id := by
  refine ((Step.enter id).confined player (realm.enter player id)).unique (.refl _ _) fun q hq => ?_
  obtain rfl := List.mem_singleton.mp hq
  have hopen : (fun j => decide (j ∈ (realm.enter q id).registry.instances))
      = fun j => decide (j ∈ realm.registry.instances) :=
    funext fun j => decide_eq_decide.mpr Registry.mem_enroll
  have honce : (realm.enter q id).standing q = _ := (Step.enter id).standing_apply_self q realm
  rw [(Step.enter id).standing_apply_self, hopen, honce, Step.after_enter_after_enter]

/-- **Who has been let in would be let in again.** -/
theorem verdict_enter_self (h : realm.verdict player id = .ok ()) :
    (realm.enter player id).verdict player id = .ok () := by
  have hentered := hasEntered_enter realm player id
  cases ruling_iff.mpr h with
  | @admitted record i known online isOpen high free =>
    have known' : (realm.enter player id).world.players[player]?
        = some { record with instance? := some id } := by
      rw [hentered.players, if_pos rfl, known]
      rfl
    have isOpen' : (realm.enter player id).registry.instances[id]?
        = some { i with players := i.players.insert player } := by
      rw [hentered.instances, if_pos rfl, isOpen]
      rfl
    refine Ruling.verdict_eq (.admitted known' online isOpen' high fun current isIn => .inl ?_)
    -- the index has the player here, so the note is not asked
    rw [current?, hentered.members, if_pos rfl] at isIn
    exact (Option.some.inj isIn).symm

/-- **Asking again** gets the same answer and changes nothing. -/
theorem run_bindPlayer_again (realm : Realm MemoryWorld) (player : PlayerId) (id : InstanceId) :
    let binding := (bindPlayer player id).run realm
    let again := (bindPlayer player id).run binding.state
    again.answer = binding.answer ∧ again.state = binding.state := by
  dsimp only
  cases hverdict : realm.verdict player id with
  | error refusal =>
    simp only [run_bindPlayer_of_error hverdict]
    exact ⟨trivial, trivial⟩
  | ok =>
    rw [run_bindPlayer_of_ok hverdict]
    dsimp only
    rw [run_bindPlayer_of_ok (verdict_enter_self hverdict)]
    exact ⟨rfl, enter_enter realm player id⟩

/-- **A player who asks to come in is answered as it is ruled**, in every state of the registry
and in every world, whoever has written the notes. The player is let in just in case the player
is connected, the instance is open, the level suffices, and the instance the player counts as
being in, if any, is this one or has closed. If the player is declined, nothing changes; if the
player is let in, the player has come in and nothing else has changed. Asking again gets the
same answer and changes nothing. -/
theorem bindPlayer_as_ruled (realm : Realm MemoryWorld) (player : PlayerId) (id : InstanceId) :
    let binding := (bindPlayer player id).run realm
    let again := (bindPlayer player id).run binding.state
    (∀ answer, binding.answer = answer ↔ realm.Ruling player id answer) ∧
    (binding.answer = .ok () ↔
      ∃ record i, realm.world.players[player]? = some record ∧ record.online = true ∧
        realm.registry.instances[id]? = some i ∧ i.minLevel ≤ record.level ∧
        ∀ current, realm.current? player = some current →
          current = id ∨ current ∉ realm.registry.instances) ∧
    (∀ refusal, binding.answer = .error refusal → binding.state = realm) ∧
    (binding.answer = .ok () → realm.HasEntered player id binding.state) ∧
    again.answer = binding.answer ∧ again.state = binding.state := by
  intro binding again
  have hverdict : binding.answer = realm.verdict player id := answer_bindPlayer player id realm
  have hruled : ∀ answer, binding.answer = answer ↔ realm.Ruling player id answer := by
    intro answer
    rw [ruling_iff, hverdict]
  refine ⟨hruled, (hruled _).trans ⟨fun h => ?_, ?_⟩, fun refusal hrefused => ?_, fun hok => ?_,
    run_bindPlayer_again realm player id⟩
  · cases h with
    | admitted known online isOpen high free =>
      exact ⟨_, _, known, online, isOpen, high, free⟩
  · rintro ⟨record, i, known, online, isOpen, high, free⟩
    exact .admitted known online isOpen high free
  · exact congrArg InstancedZones.Step.state
      (run_bindPlayer_of_error (hverdict.symm.trans hrefused))
  · have hstate : binding.state = realm.enter player id :=
      congrArg InstancedZones.Step.state (run_bindPlayer_of_ok (hverdict.symm.trans hok))
    rw [hstate]
    exact hasEntered_enter realm player id

/-- A note from outside that names another open instance keeps a player out. -/
example :
    let registry := ((Registry.ofSettings .usual).add (.ofBlueprint ⟨1⟩ .plain .epoch)).add
      (.ofBlueprint ⟨2⟩ .plain .epoch)
    let realm : Realm MemoryWorld := ⟨registry, MemoryWorld.trio.noteInstance ⟨1⟩ (some ⟨2⟩)⟩
    ((bindPlayer ⟨1⟩ ⟨1⟩).run realm).answer = .error (.alreadyBound ⟨1⟩ ⟨2⟩) := by
  decide +kernel

end Realm

end InstancedZones
