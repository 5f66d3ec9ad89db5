import InstancedZones.Proofs.Membership
import InstancedZones.Proofs.MemoryWorld
import InstancedZones.Proofs.Run

/-!
# The two sides of membership agree

Who is in which instance is kept twice: the index says it for each player, and
every open instance has a set of its players. `Registry.Consistent` says that
the two agree, that every record stands under its own identity and that no
instance has the number zero. It holds of a new registry and after every call,
whatever the world answers and however it changes between the calls:
`Run.consistent`.

Only opening an instance looks at the numbers. Players who come in and leave rely
on no more than that the two sides agree, `Registry.SidesAgree`, and closing an
instance on that and on the identities of the records, `Registry.Tallied`.
-/

namespace InstancedZones

namespace Registry

/-- **The two sides of membership agree**: the index has a player in an instance exactly
if the instance lists the player. -/
def SidesAgree (r : Registry) : Prop :=
  ∀ player id, r.instanceOf player = some id ↔ r.isPlayerBound player id = true

/-- **The registry is tallied**: the two sides of membership agree, and every record
stands under its own identity. -/
structure Tallied (r : Registry) : Prop where
  /-- The two sides of membership agree. -/
  sides : r.SidesAgree
  /-- A record stands under its own identity. -/
  own_id : ∀ {id : InstanceId} {i : Instance}, r.instances[id]? = some i → i.id = id

/-- **The registry agrees with itself.** -/
structure Consistent (r : Registry) : Prop where
  /-- The index has a player in an instance exactly if the instance lists the
  player. -/
  indexed : ∀ player id, r.instanceOf player = some id ↔ r.isPlayerBound player id = true
  /-- A record stands under its own identity. -/
  own_id : ∀ {id : InstanceId} {i : Instance}, r.instances[id]? = some i → i.id = id
  /-- No open instance has the number zero. -/
  id_ne_zero : ∀ {id : InstanceId}, id ∈ r.instances → id.number ≠ 0
  /-- The search for a free identity does not start at zero. -/
  nextId_ne_zero : r.nextId.number ≠ 0

variable {r : Registry} {player : PlayerId} {id : InstanceId} {i : Instance}

theorem consistent_ofSettings (s : TemplateSettings) : (ofSettings s).Consistent where
  indexed player id := by simp [instanceOf, isPlayerBound, ofSettings]
  own_id h := by simp [ofSettings] at h
  id_ne_zero h := by simp [ofSettings] at h
  nextId_ne_zero := show InstanceId.first.number ≠ 0 by decide

/-- The instance a player is in is open. -/
theorem SidesAgree.mem_of_instanceOf (h : r.SidesAgree) (hin : r.instanceOf player = some id) :
    id ∈ r.instances :=
  mem_of_isPlayerBound ((h player id).mp hin)

/-- The index has exactly those in an open instance whom the instance lists. -/
theorem SidesAgree.instanceOf_eq_some_iff (h : r.SidesAgree) (hi : r.instances[id]? = some i) :
    r.instanceOf player = some id ↔ player ∈ i.players := by
  rw [h, isPlayerBound_iff, hi]
  simp

/-- An open instance can be dissolved. -/
theorem Tallied.dissolve (h : r.Tallied) (hi : r.instances[id]? = some i) :
    (r.dissolve i).Tallied where
  sides q j := by
    have hid := h.own_id hi
    have hmem : r.instanceOf q = some id ↔ q ∈ i.players := h.sides.instanceOf_eq_some_iff hi
    rw [instanceOf_dissolve, isPlayerBound_dissolve, ← h.sides q j, hid]
    by_cases hq : q ∈ i.players
    · simp [hq, hmem.mpr hq]
    · -- a player who is not in it is in another instance, or in none
      simp only [hq, if_false, iff_self_and]
      rintro hj rfl
      exact hq (hmem.mp hj)
  own_id hk := h.own_id (of_getElem?_dissolve hk)

namespace Consistent

theorem tallied (h : r.Consistent) : r.Tallied := ⟨h.indexed, h.own_id⟩

/-- A consistent registry will do wherever a tallied one is asked for. -/
instance : Coe r.Consistent r.Tallied := ⟨tallied⟩

/-- The instance a player is in is open. -/
theorem mem_of_instanceOf (h : r.Consistent) (hin : r.instanceOf player = some id) :
    id ∈ r.instances :=
  h.tallied.sides.mem_of_instanceOf hin

/-- The index has exactly those in an open instance whom the instance lists. -/
theorem instanceOf_eq_some_iff (h : r.Consistent) (hi : r.instances[id]? = some i) :
    r.instanceOf player = some id ↔ player ∈ i.players :=
  h.tallied.sides.instanceOf_eq_some_iff hi

/-- **Nobody is in two instances.** -/
theorem isPlayerBound_unique (h : r.Consistent) {id' : InstanceId}
    (hid : r.isPlayerBound player id = true) (hid' : r.isPlayerBound player id' = true) :
    id = id' :=
  Option.some.inj (((h.indexed player id).mpr hid).symm.trans ((h.indexed player id').mpr hid'))

/-! ## What keeps a registry consistent -/

/-- A player who is in no other instance can be enrolled in an open one. -/
theorem enroll (h : r.Consistent) (hopen : id ∈ r.instances)
    (hfree : r.instanceOf player = none ∨ r.instanceOf player = some id) :
    (r.enroll player id).Consistent where
  indexed q j := by
    rw [instanceOf_enroll, isPlayerBound_enroll, ← h.indexed q j]
    by_cases hq : player = q
    · subst hq
      rcases hfree with hnone | hsome
      · simp [hnone, hopen]
      · simp [hsome, hopen]
    · simp [hq]
  own_id {j k} hk := by
    obtain ⟨players, hbefore⟩ := of_getElem?_enroll hk
    have hown := h.own_id hbefore
    exact hown
  id_ne_zero hj := h.id_ne_zero (mem_enroll.mp hj)
  nextId_ne_zero := h.nextId_ne_zero

/-- A player can be withdrawn from the instance the player is in. -/
theorem withdraw (h : r.Consistent) (hin : r.instanceOf player = some id) :
    (r.withdraw player id).Consistent where
  indexed q j := by
    rw [instanceOf_withdraw, isPlayerBound_withdraw, ← h.indexed q j]
    by_cases hq : player = q
    · subst hq
      simp [hin]
    · simp [hq]
  own_id {j k} hk := by
    obtain ⟨players, hbefore⟩ := of_getElem?_withdraw hk
    have hown := h.own_id hbefore
    exact hown
  id_ne_zero hj := h.id_ne_zero (mem_withdraw.mp hj)
  nextId_ne_zero := h.nextId_ne_zero

/-- An instance without players can be added under a free identity other than
zero. -/
theorem add (h : r.Consistent) (hfree : i.id ∉ r.instances) (hempty : i.players = ∅)
    (hzero : i.id.number ≠ 0) : (r.add i).Consistent where
  indexed q j := by
    rw [instanceOf_add, isPlayerBound_add hfree hempty]
    exact h.indexed q j
  own_id {j k} hk := by
    rcases of_getElem?_add hk with ⟨hj, rfl⟩ | hold
    · exact hj
    · exact h.own_id hold
  id_ne_zero {j} hj := by
    rcases mem_add.mp hj with rfl | hold
    · exact hzero
    · exact h.id_ne_zero hold
  nextId_ne_zero := i.id.next_ne_zero

/-- An open instance can be dissolved. -/
theorem dissolve (h : r.Consistent) (hi : r.instances[id]? = some i) :
    (r.dissolve i).Consistent where
  indexed := (h.tallied.dissolve hi).sides
  own_id := (h.tallied.dissolve hi).own_id
  id_ne_zero hj := h.id_ne_zero (mem_dissolve.mp hj).2
  nextId_ne_zero := h.nextId_ne_zero

/-- Templates have no part in it. -/
theorem withTemplates (h : r.Consistent) (cache : TemplateCache) :
    { r with templates := cache }.Consistent where
  indexed := h.indexed
  own_id := h.own_id
  id_ne_zero := h.id_ne_zero
  nextId_ne_zero := h.nextId_ne_zero

end Consistent

/-! ## Who may come in -/

/-- **Nothing keeps a player elsewhere** if what is known of the player's
instance, from the index or else from the world, is no open instance but the one
asked for. -/
theorem elsewhere?_eq_none_iff {info : PlayerInfo} :
    r.elsewhere? player info id = none
      ↔ ∀ current, (r.instanceOf player <|> info.instance?) = some current →
          current = id ∨ current ∉ r.instances := by
  unfold elsewhere? instanceOf
  cases r.members[player]? <|> info.instance? with
  | none => simp
  | some current =>
    simp only [ite_eq_right_iff, reduceCtorEq, imp_false, Option.some.injEq, forall_eq',
      Std.ExtTreeMap.contains_iff_mem]
    tauto

/-- **Who is let in**: a connected player of sufficient level, into an open
instance, if nothing keeps the player elsewhere. -/
theorem verdict_eq_ok_iff {info : Option PlayerInfo} :
    r.verdict player info id = .ok ()
      ↔ ∃ seen i, info = some seen ∧ r.instances[id]? = some i ∧ i.minLevel ≤ seen.level ∧
          r.elsewhere? player seen id = none := by
  unfold verdict
  cases info with
  | none => simp
  | some seen =>
    cases hi : r.instances[id]? with
    | none => simp
    | some i =>
      by_cases hlevel : seen.level < i.minLevel
      · simp [hlevel, ← UInt32.not_lt]
      · cases helse : r.elsewhere? player seen id <;> simp [hlevel, helse, ← UInt32.not_lt]

/-- Whoever is let in is in no other instance. -/
theorem SidesAgree.of_verdict_ok (h : r.SidesAgree) {info : Option PlayerInfo}
    (hok : r.verdict player info id = .ok ()) :
    id ∈ r.instances ∧ (r.instanceOf player = none ∨ r.instanceOf player = some id) := by
  obtain ⟨seen, i, -, hi, -, helse⟩ := verdict_eq_ok_iff.mp hok
  refine ⟨mem_instances_iff.mpr ⟨i, hi⟩, ?_⟩
  cases hin : r.instanceOf player with
  | none => exact .inl rfl
  | some current =>
    have hcurrent := elsewhere?_eq_none_iff.mp helse current (by rw [hin]; rfl)
    -- the index names open instances only
    rcases hcurrent with rfl | hclosed
    · exact .inr rfl
    · exact absurd (h.mem_of_instanceOf hin) hclosed

end Registry

/-! ## Every call keeps the registry consistent -/

namespace Realm

variable {W : Type} [World W]

/-- **Consistency is kept by all building blocks**, in every world. -/
theorem stepsKeep_consistent :
    StepsKeep fun realm : Realm W => realm.registry.Consistent := .ofRegistry {
  enroll := fun h hok =>
    let ⟨hopen, hfree⟩ := h.tallied.sides.of_verdict_ok hok
    h.enroll hopen hfree
  withdraw := fun h hin => h.withdraw hin
  templates := fun h _ => h.withTemplates _
  dissolve := fun h hi => h.dissolve hi
  add := fun _ _ h _ hfree =>
    h.add hfree rfl (Registry.firstFree_ne_zero _ h.nextId_ne_zero _) }

/-- Closing keeps a registry tallied. -/
theorem keeps_tallied_close (id : InstanceId) (reason : String) :
    (close id reason : Action (Realm W) _).Keeps fun realm => realm.registry.Tallied := by
  intro realm h
  rcases registry_close id reason realm with hsame | ⟨i, hi, hclosed⟩
  · rw [hsame]
    exact h
  · rw [hclosed]
    exact h.dissolve hi

end Realm

/-- The world of three, once a plain instance has been opened in it. -/
theorem Run.opened_trio (drift : MemoryWorld → MemoryWorld → Prop) :
    Run drift ⟨.ofSettings .usual, MemoryWorld.trio⟩
      [(.create .plain .epoch, .ok (.created ⟨1⟩))]
      ((Call.create .plain .epoch).perform.run ⟨.ofSettings .usual, MemoryWorld.trio⟩).state :=
  .call (.create .plain .epoch) .start fun _ _ => ⟨0, by decide +kernel⟩

variable {W : Type} [World W] {drift : W → W → Prop} {s : TemplateSettings} {w : W}
  {log : List (Call × Except Refusal Reply)} {realm : Realm W}

/-- **After every run the registry is consistent.** -/
theorem Run.consistent (run : Run drift ⟨.ofSettings s, w⟩ log realm) :
    realm.registry.Consistent :=
  run.keeps Realm.stepsKeep_consistent (fun _ _ h _ => h) (Registry.consistent_ofSettings s)

/-- **The two sides of membership agree after every run**, in every world and
however it goes on: the index has a player in an instance exactly if the open
instance lists the player, so nobody is in two; and every record stands under
its own identity, which is not zero. -/
theorem Run.membership_agrees (run : Run drift ⟨.ofSettings s, w⟩ log realm) :
    (∀ (player : PlayerId) (id : InstanceId), realm.registry.members[player]? = some id
      ↔ ∃ i, realm.registry.instances[id]? = some i ∧ player ∈ i.players) ∧
    (∀ player id, realm.registry.isPlayerBound player id = true
      ↔ realm.registry.instanceOf player = some id) ∧
    (∀ player id id', realm.registry.isPlayerBound player id = true →
      realm.registry.isPlayerBound player id' = true → id = id') ∧
    (∀ (id : InstanceId) (i : Instance), realm.registry.instances[id]? = some i →
      i.id = id ∧ id.number ≠ 0) := by
  have h := run.consistent
  refine ⟨fun player id => ?_, fun player id => (h.indexed player id).symm,
    fun player id id' => h.isPlayerBound_unique, fun id i hi => ⟨h.own_id hi, ?_⟩⟩
  · rw [← Registry.isPlayerBound_iff]
    exact h.indexed player id
  · exact h.id_ne_zero (Registry.mem_instances_iff.mpr ⟨i, hi⟩)

/-- A party of three comes in and the second of them leaves again: the third is
indexed under the instance, and listed in it. -/
theorem Run.third_of_trio_listed :
    ∃ log realm, Run (fun _ _ => True) ⟨.ofSettings .usual, MemoryWorld.trio⟩ log realm ∧
      log.map Prod.fst = [.create .plain .epoch, .bindParty ⟨1⟩ ⟨1⟩, .playerLeave ⟨2⟩] ∧
      ∃ i, realm.registry.instances[(⟨1⟩ : InstanceId)]? = some i ∧ ⟨3⟩ ∈ i.players := by
  have run := ((opened_trio fun _ _ => True).call (.bindParty ⟨1⟩ ⟨1⟩) trivial).call
    (.playerLeave ⟨2⟩) trivial
  exact ⟨_, _, run, rfl, ((membership_agrees run).1 ⟨3⟩ ⟨1⟩).mp (by rfl)⟩

end InstancedZones
