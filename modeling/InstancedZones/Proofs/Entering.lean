import InstancedZones.Proofs.Consistency
import InstancedZones.Proofs.MemoryWorld

/-!
# Coming in and leaving, over a world in memory

Over a world in memory the two operations on one player come down to two
functions on realms. `Realm.enter` enrolls the player and notes the instance,
`Realm.leave` withdraws the player from wherever the player is and takes the
note back. Each touches the two sides of one membership and nothing else; in
particular it leaves the verdict on every other player as it is, which is what
makes a party of many come down to its members one by one. What the two keep is
kept by all that players do without being moved, `Realm.EntriesKeep.ofSteps`.
-/

namespace InstancedZones

namespace Realm

variable {realm : Realm MemoryWorld} {player q : PlayerId} {id j : InstanceId}

/-- Whether a player may come into an instance, as things stand. -/
def verdict (realm : Realm MemoryWorld) (player : PlayerId) (id : InstanceId) :
    Except Refusal Unit :=
  realm.registry.verdict player (realm.world.info? player) id

/-- The realm once a player has come into an instance. -/
def enter (realm : Realm MemoryWorld) (player : PlayerId) (id : InstanceId) :
    Realm MemoryWorld where
  registry := realm.registry.enroll player id
  world := realm.world.noteInstance player (some id)

/-- The realm once a player has left the instance the player was in, if there
was one. -/
def leave (realm : Realm MemoryWorld) (player : PlayerId) : Realm MemoryWorld :=
  match realm.registry.instanceOf player with
  | none => realm
  | some id =>
    { registry := realm.registry.withdraw player id
      world := realm.world.noteInstance player none }

/-! ## The operations -/

/-- **A player who is let in comes in.** -/
theorem run_bindPlayer_of_ok (h : realm.verdict player id = .ok ()) :
    (bindPlayer player id).run realm
      = ⟨.ok (), realm.enter player id,
          [.debug "player bound" [("instance_id", id.label), ("player_id", player.label)]]⟩ := by
  unfold verdict at h
  simp [bindPlayer, h, enter]

/-- **A player who is declined** is told why, and nothing changes. -/
theorem run_bindPlayer_of_error {refusal : Refusal} (h : realm.verdict player id = .error refusal) :
    (bindPlayer player id).run realm = ⟨.error refusal, realm, refusal.bindEvents id⟩ := by
  unfold verdict at h
  simp [bindPlayer, h]

/-- **A player who leaves** is out of the instance the player was in. -/
theorem run_playerLeave_state (player : PlayerId) (realm : Realm MemoryWorld) :
    ((playerLeave player).run realm).state = realm.leave player := by
  unfold playerLeave leave
  cases hin : realm.registry.instanceOf player <;> simp [hin]

/-- **What coming in and leaving keep**, the building blocks keep: a player who is let in
comes in, one who is declined does not, and whoever leaves is out. -/
theorem EntriesKeep.ofSteps {I : Realm MemoryWorld → Prop}
    (henter : ∀ realm player id, I realm → realm.verdict player id = .ok () →
      I (realm.enter player id))
    (hleave : ∀ realm player, I realm → I (realm.leave player)) : EntriesKeep I where
  bindPlayer player id realm h := by
    cases hverdict : realm.verdict player id with
    | error refusal =>
      rw [run_bindPlayer_of_error hverdict]
      exact h
    | ok =>
      rw [run_bindPlayer_of_ok hverdict]
      exact henter realm player id h hverdict
  playerLeave player realm h := by
    rw [run_playerLeave_state]
    exact hleave realm player h
  partyMembers _ _ h := h

/-! ## The verdict on the others -/

/-- What can be seen of a player does not depend on the notes on others. -/
theorem info?_noteInstance_ne {w : MemoryWorld} {note : Option InstanceId} (h : player ≠ q) :
    (w.noteInstance player note).info? q = w.info? q := by
  rw [MemoryWorld.info?, MemoryWorld.getElem?_noteInstance, if_neg h]
  rfl

/-- **One player coming in changes the verdict on no other.** -/
theorem verdict_enter_ne (h : player ≠ q) :
    (realm.enter player id).verdict q j = realm.verdict q j := by
  unfold verdict Registry.verdict
  rw [show (realm.enter player id).world.info? q = realm.world.info? q from
    info?_noteInstance_ne h]
  cases realm.world.info? q with
  | none => rfl
  | some info =>
    have helse : (realm.enter player id).registry.elsewhere? q info j
        = realm.registry.elsewhere? q info j := by
      have hmember : (realm.registry.enroll player id).members[q]?
          = realm.registry.members[q]? := by
        rw [Registry.enroll, Table.getElem?_insert, if_neg h]
      have hopen : ∀ current, (realm.registry.enroll player id).instances.contains current
          = realm.registry.instances.contains current := fun _ =>
        Std.ExtTreeMap.contains_modify
      unfold Registry.elsewhere? enter
      simp only [hmember, hopen]
    simp only [helse]
    -- the record of the instance may have one player more, which the verdict does not look at
    simp only [enter, Registry.getElem?_enroll]
    cases realm.registry.instances[j]? <;> by_cases hj : id = j <;> simp [hj]

/-! ## Consistency and membership -/

/-- **Whoever is let in is listed nowhere else.** -/
theorem eq_of_isPlayerBound_of_admitted (sides : realm.registry.SidesAgree)
    (hok : realm.verdict player id = .ok ())
    (hbound : realm.registry.isPlayerBound player j = true) : id = j := by
  rw [← sides player j] at hbound
  rcases (sides.of_verdict_ok hok).2 with hnone | hsome
  · cases hnone.symm.trans hbound
  · exact Option.some.inj (hsome.symm.trans hbound)

/-- A player who is let in leaves a consistent registry consistent. -/
theorem consistent_enter (h : realm.registry.Consistent) (hok : realm.verdict player id = .ok ()) :
    (realm.enter player id).registry.Consistent :=
  let ⟨hopen, hfree⟩ := h.tallied.sides.of_verdict_ok hok
  h.enroll hopen hfree

theorem consistent_leave (h : realm.registry.Consistent) (player : PlayerId) :
    (realm.leave player).registry.Consistent := by
  unfold leave
  cases hin : realm.registry.instanceOf player with
  | none => exact h
  | some id => exact h.withdraw hin

/-- **Coming in makes one membership more.** -/
theorem isPlayerBound_enter (hok : realm.verdict player id = .ok ()) :
    (realm.enter player id).registry.isPlayerBound q j = true
      ↔ realm.registry.isPlayerBound q j = true ∨ (player = q ∧ id = j) := by
  obtain ⟨seen, i, -, hi, -⟩ := Registry.verdict_eq_ok_iff.mp hok
  have hopen : id ∈ realm.registry.instances := Registry.mem_instances_iff.mpr ⟨i, hi⟩
  rw [enter, Registry.isPlayerBound_enroll]
  simp only [hopen, and_true]

/-- **Leaving ends every membership of the player**, and no other. -/
theorem isPlayerBound_leave (h : realm.registry.Consistent) :
    (realm.leave player).registry.isPlayerBound q j = true
      ↔ realm.registry.isPlayerBound q j = true ∧ player ≠ q := by
  unfold leave
  cases hin : realm.registry.instanceOf player with
  | none =>
    refine ⟨fun hbound => ⟨hbound, ?_⟩, And.left⟩
    rintro rfl
    rw [(h.indexed player j).mpr hbound] at hin
    cases hin
  | some id =>
    rw [Registry.isPlayerBound_withdraw, and_congr_right_iff]
    intro hbound
    constructor
    · rintro hne rfl
      -- the only instance the player is in is the one of the index
      exact hne ⟨rfl, Option.some.inj (hin.symm.trans ((h.indexed player j).mpr hbound))⟩
    · rintro hne ⟨rfl, -⟩
      exact hne rfl

end Realm

end InstancedZones
