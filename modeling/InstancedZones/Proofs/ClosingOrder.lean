import InstancedZones.Proofs.Farewells

/-!
# The order in which instances are closed does not matter

Nobody is in two instances, so closing one leaves the others, their members and the
farewells of these as they were, `Realm.Evacuated.farewell_eq_of_mem`. Hence each
instance of a list without repeats is closed with the report that there would have been
on it at the start, and what becomes of each player is told by the instance the player
was in at the start, `Realm.evacuated_mapM`. None of this depends on the order of the
list but the order of the moves written down: `Realm.closings_commute`.
-/

namespace InstancedZones

/-- A world is its players, the moves made, and the rest. -/
theorem MemoryWorld.ext_backdrop {w w' : MemoryWorld}
    (hplayers : ∀ q : PlayerId, w'.players[q]? = w.players[q]?)
    (hbackdrop : w'.backdrop = w.backdrop) :
    { w' with relocations := [] } = { w with relocations := [] } := by
  have hrest : ∀ w : MemoryWorld, ({ w with relocations := [] } : MemoryWorld)
      = { w.backdrop with players := w.players } := fun _ => rfl
  rw [hrest w', hrest w, hbackdrop, Std.ExtTreeMap.ext_getElem? hplayers]

namespace Realm

variable {realm realm' realm'' : Realm MemoryWorld} {reason : InstanceId → String}
  {ids ids' rest : List InstanceId} {id j : InstanceId} {k : Instance} {q : PlayerId}

namespace Evacuated

/-- The farewells of bystanders are what they were. -/
theorem farewell_eq (h : Evacuated reason ids realm realm')
    (hq : ∀ id ∈ ids, realm.registry.instanceOf q ≠ some id) (k : Instance) (notice : String) :
    realm'.world.farewell k notice q = realm.world.farewell k notice q := by
  have hblocked : realm'.world.blocked = realm.world.blocked := by
    change realm'.world.backdrop.blocked = realm.world.backdrop.blocked
    rw [h.backdrop]
  rw [MemoryWorld.farewell, MemoryWorld.farewell, hblocked, (h.bystanders q hq).2]

/-- **The members of an instance that has not been closed** have their farewells still
before them, as they were. -/
theorem farewell_eq_of_mem (h : Evacuated reason ids realm realm')
    (tallied : realm.registry.Tallied) (hj : j ∉ ids)
    (hk : realm.registry.instances[j]? = some k) (hq : q ∈ k.players) (notice : String) :
    realm'.world.farewell k notice q = realm.world.farewell k notice q := by
  refine h.farewell_eq (fun id hid hin => hj ?_) k notice
  -- nobody is in two instances
  rw [(tallied.sides.instanceOf_eq_some_iff hk).mpr hq] at hin
  exact Option.some.inj hin ▸ hid

theorem reportOn_eq (h : Evacuated reason ids realm realm')
    (tallied : realm.registry.Tallied) (hj : j ∉ ids)
    (hk : realm.registry.instances[j]? = some k) (why : String) :
    realm'.reportOn k why = realm.reportOn k why := by
  refine congrArg (CloseReport.ofDepartures k why) (List.map_congr_left fun q hq => ?_)
  rw [h.farewell_eq_of_mem tallied hj hk (Std.ExtTreeSet.mem_toList.mp hq)]

theorem exodus_eq (h : Evacuated reason ids realm realm')
    (tallied : realm.registry.Tallied) (hj : j ∉ ids) :
    realm'.exodus reason j = realm.exodus reason j := by
  unfold exodus
  rw [h.instances j, if_neg hj]
  cases hk : realm.registry.instances[j]? with
  | none => rfl
  | some k =>
    refine List.flatMap_congr fun q hq => ?_
    rw [MemoryWorld.farewellMoves, MemoryWorld.farewellMoves,
      h.farewell_eq_of_mem tallied hj hk (Std.ExtTreeSet.mem_toList.mp hq)]

/-- **First one and then others.** -/
theorem cons (tallied : realm.registry.Tallied) (hid : id ∉ rest)
    (h : Evacuated reason [id] realm realm') (hrest : Evacuated reason rest realm' realm'') :
    Evacuated reason (id :: rest) realm realm'' where
  instances j := by
    rw [hrest.instances j, h.instances j]
    by_cases hj : j ∈ rest
    · rw [if_pos hj, if_pos (List.mem_cons_of_mem _ hj)]
    · simp only [List.mem_cons, List.not_mem_nil, hj, or_false, if_false]
  templates := hrest.templates.trans h.templates
  counter := hrest.counter.trans h.counter
  members j hj k hk q hq := by
    rcases List.mem_cons.mp hj with rfl | hj
    · obtain ⟨hout, hrecord⟩ := h.members j List.mem_cons_self k hk q hq
      -- whoever is out is a bystander from then on
      obtain ⟨hout', hrecord'⟩ := hrest.bystanders q fun _ _ hin => by
        rw [hout] at hin
        cases hin
      exact ⟨hout'.trans hout, hrecord'.trans hrecord⟩
    · have hne : j ∉ [id] := notMem_singleton_of_mem hid hj
      obtain ⟨hout, hrecord⟩ := hrest.members j hj k
        ((h.instances j).trans ((if_neg hne).trans hk)) q hq
      refine ⟨hout, hrecord.trans ?_⟩
      rw [h.farewell_eq_of_mem tallied hne hk hq]
  bystanders q hq := by
    obtain ⟨hin, hrecord⟩ := h.bystanders q fun j hj =>
      hq j (List.mem_singleton.mp hj ▸ List.mem_cons_self)
    obtain ⟨hin', hrecord'⟩ := hrest.bystanders q fun j hj => by
      rw [hin]
      exact hq j (List.mem_cons_of_mem _ hj)
    exact ⟨hin'.trans hin, hrecord'.trans hrecord⟩
  moves := by
    have hsame : rest.flatMap (realm'.exodus reason) = rest.flatMap (realm.exodus reason) :=
      List.flatMap_congr fun j hj => h.exodus_eq tallied (notMem_singleton_of_mem hid hj)
    rw [hrest.moves, h.moves, hsame, List.append_assoc, List.flatMap_singleton, List.flatMap_cons]
  backdrop := hrest.backdrop.trans h.backdrop

/-- **What is left tells only which instances were closed**, but for the moves. -/
theorem unique (tallied : realm.registry.Tallied) (h : Evacuated reason ids realm realm')
    (h' : Evacuated reason ids' realm realm'') (hsame : ∀ id, id ∈ ids ↔ id ∈ ids') :
    realm'.registry = realm''.registry ∧
      { realm'.world with relocations := [] } = { realm''.world with relocations := [] } := by
  have hplayer : ∀ q, realm'.registry.instanceOf q = realm''.registry.instanceOf q ∧
      realm'.world.players[q]? = realm''.world.players[q]? := by
    intro q
    rcases h.member_or_bystander tallied q with
      ⟨hout, id, hid, k, hk, hmem, hrecord⟩ | ⟨hin, hnone, hrecord⟩
    · obtain ⟨hout', hrecord'⟩ := h'.members id ((hsame id).mp hid) k hk q hmem
      exact ⟨hout.trans hout'.symm, hrecord.trans hrecord'.symm⟩
    · obtain ⟨hin', hrecord'⟩ := h'.bystanders q fun id hid => hnone id ((hsame id).mpr hid)
      exact ⟨hin.trans hin'.symm, hrecord.trans hrecord'.symm⟩
  constructor
  · have hinstances : realm'.registry.instances = realm''.registry.instances :=
      Std.ExtTreeMap.ext_getElem? fun j => by
        rw [h.instances j, h'.instances j]
        simp only [hsame]
    have hmembers : realm'.registry.members = realm''.registry.members :=
      Std.ExtTreeMap.ext_getElem? fun q => (hplayer q).1
    show (⟨realm'.registry.instances, realm'.registry.members, realm'.registry.templates,
      realm'.registry.nextId⟩ : Registry) = _
    rw [hinstances, hmembers, h.templates.trans h'.templates.symm, h.counter.trans h'.counter.symm]
  · exact MemoryWorld.ext_backdrop (fun q => (hplayer q).2) (h.backdrop.trans h'.backdrop.symm)

end Evacuated

/-- **Closing a list of open instances without repeats**: on each there is the report that
there would have been at the start. -/
theorem evacuated_mapM (tallied : realm.registry.Tallied) (reason : InstanceId → String)
    (hids : ids.Nodup) (hopen : ∀ id ∈ ids, id ∈ realm.registry.instances) :
    ((ids.mapM fun id => close id (reason id)).run realm).answer
        = ids.map (fun id => ((close id (reason id)).run realm).answer) ∧
      Evacuated reason ids realm ((ids.mapM fun id => close id (reason id)).run realm).state := by
  induction ids generalizing realm with
  | nil =>
    rw [List.mapM_nil]
    exact ⟨rfl, by simp, rfl, rfl, by simp, by simp, by simp, rfl⟩
  | cons id rest ih =>
    obtain ⟨hid, hrest⟩ := List.nodup_cons.mp hids
    have hfirst := evacuated_close tallied id reason
    have hstill : ∀ j ∈ rest, ((close id (reason id)).run realm).state.registry.instances[j]?
        = realm.registry.instances[j]? := fun j hj =>
      (hfirst.instances j).trans (if_neg (notMem_singleton_of_mem hid hj))
    have htallied := keeps_tallied_close id (reason id) realm tallied
    obtain ⟨hanswers, hothers⟩ := ih htallied hrest fun j hj => by
      rw [Registry.mem_instances_iff, hstill j hj, ← Registry.mem_instances_iff]
      exact hopen j (List.mem_cons_of_mem _ hj)
    rw [List.mapM_cons, Action.run_bind, Action.run_bind_pure]
    refine ⟨?_, hfirst.cons tallied hid hothers⟩
    dsimp only
    rw [hanswers, List.map_cons]
    refine congrArg (_ :: ·) (List.map_congr_left fun j hj => ?_)
    obtain ⟨k, hk⟩ := Registry.mem_instances_iff.mp (hopen j (List.mem_cons_of_mem _ hj))
    rw [(evacuated_close_of_open tallied hk reason).1,
      (evacuated_close_of_open htallied ((hstill j hj).trans hk) reason).1,
      hfirst.reportOn_eq tallied (notMem_singleton_of_mem hid hj) hk]

/-- **Instances can be closed in any order.** Whichever way round the open instances of a
list without repeats are closed, each for a reason of its own, the report on each is the
same, the registry that is left is the same, and so is the world, but for the order in
which the moves of the members are written down. -/
theorem closings_commute (consistent : realm.registry.Consistent) (reason : InstanceId → String)
    (hids : ids.Nodup) (hopen : ∀ id ∈ ids, id ∈ realm.registry.instances)
    (hperm : ids.Perm ids') :
    let one := (ids.mapM fun id => close id (reason id)).run realm
    let other := (ids'.mapM fun id => close id (reason id)).run realm
    (∃ report : InstanceId → CloseReport,
      one.answer = ids.map (fun id => .ok (report id)) ∧
        other.answer = ids'.map (fun id => .ok (report id))) ∧
      one.state.registry = other.state.registry ∧
      { one.state.world with relocations := [] } = { other.state.world with relocations := [] } ∧
      one.state.world.relocations.Perm other.state.world.relocations := by
  intro one other
  obtain ⟨hanswer, hone⟩ := evacuated_mapM consistent reason hids hopen
  obtain ⟨hanswer', hother⟩ := evacuated_mapM consistent reason (hperm.nodup_iff.mp hids)
    fun id hid => hopen id (hperm.mem_iff.mpr hid)
  -- the report on an open instance, were it closed at the start
  have hreport : ∀ id, id ∈ realm.registry.instances → ∃ report,
      ((close id (reason id)).run realm).answer = .ok report := fun id hmem => by
    obtain ⟨i, hi⟩ := Registry.mem_instances_iff.mp hmem
    exact ⟨_, (evacuated_close_of_open consistent hi reason).1⟩
  have blank : Nonempty CloseReport := ⟨⟨.first, "", "", [], [], []⟩⟩
  choose! report hreport using hreport
  obtain ⟨hregistry, hworld⟩ := hone.unique consistent hother fun id => hperm.mem_iff
  refine ⟨⟨report, ?_, ?_⟩, hregistry, hworld, ?_⟩
  · exact hanswer.trans (List.map_congr_left fun id hid => hreport id (hopen id hid))
  · refine hanswer'.trans (List.map_congr_left fun id hid => hreport id (hopen id ?_))
    exact hperm.mem_iff.mpr hid
  · rw [hone.moves, hother.moves]
    exact (hperm.flatMap_right _).append_left _

/-- One of three is in an instance without an exit, another in one with an exit. Both
instances are closed, and of the order only the record of moves tells. -/
theorem closings_of_trio_commute :
    ∃ log realm, Run (fun _ _ => False) ⟨.ofSettings .usual, MemoryWorld.trio⟩ log realm ∧
      log.map Prod.fst = [.create .plain .epoch, .create { Blueprint.plain with exit := ⟨50, 50, 7⟩ }
        .epoch, .bindPlayer ⟨1⟩ ⟨1⟩, .bindPlayer ⟨3⟩ ⟨2⟩] ∧
      let one := ([⟨1⟩, ⟨2⟩].mapM fun id => close id id.label).run realm
      let other := ([⟨2⟩, ⟨1⟩].mapM fun id => close id id.label).run realm
      one.state.registry = other.state.registry ∧
        { one.state.world with relocations := [] }
          = { other.state.world with relocations := [] } ∧
        one.state.world.relocations = [(⟨1⟩, ⟨32, 32, 7⟩), (⟨3⟩, ⟨50, 50, 7⟩)] ∧
        other.state.world.relocations = [(⟨3⟩, ⟨50, 50, 7⟩), (⟨1⟩, ⟨32, 32, 7⟩)] := by
  have opened := (Run.opened_trio fun _ _ => False).call
    (.create { Blueprint.plain with exit := ⟨50, 50, 7⟩ } .epoch) fun _ _ => ⟨0, by decide +kernel⟩
  have run := (opened.call (.bindPlayer ⟨1⟩ ⟨1⟩) trivial).call (.bindPlayer ⟨3⟩ ⟨2⟩) trivial
  obtain ⟨-, hregistry, hworld, -⟩ := closings_commute run.consistent InstanceId.label
    (by decide : [(⟨1⟩ : InstanceId), ⟨2⟩].Nodup) (by decide +kernel)
    (.swap (⟨2⟩ : InstanceId) ⟨1⟩ [])
  exact ⟨_, _, run, rfl, hregistry, hworld, by decide +kernel, by decide +kernel⟩

end Realm

end InstancedZones
