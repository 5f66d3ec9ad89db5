import InstancedZones.Proofs.Closing

/-!
# What becomes of the members of an instance that closes

Over a world in memory the `Farewell` of a member is told by the instance, by the
positions that refuse a move and by the member's own record: how the member departs,
what the record is afterwards, and where the member is moved to, which is one place or
none. Since a member is sent away by changing that one record, and no refusal is lifted
or imposed on the way, all members get the farewell that they would have got at the
start, in whatever order they are sent away, `MemoryWorld.sentAway_evictAll`.

So closing an open instance is known exactly. The report lists the farewells; the
setting loses the one instance; of the standings only those of its members change; and
the moves of the farewells are written down, `Realm.evacuated_close_of_open`.
-/

namespace InstancedZones

/-- What becomes of a member whose instance closes. -/
structure Farewell where
  /-- How the member departs. -/
  how : Departure
  /-- The world's record of the member afterwards. -/
  record : Option PlayerRecord
  /-- Where the member is moved to. -/
  targets : List Position

namespace Instance

/-- Whether connected members come out at the exit, `bars` giving the positions that
refuse a move and what they answer: the exit can be used, and it answers with success. -/
def leadsOut (i : Instance) (bars : Std.ExtTreeMap Position Relocation) : Bool :=
  i.exit.isValid && (bars[i.exit]?.getD .moved).succeeded

/-- Where a connected member is sent. -/
def destination (i : Instance) (bars : Std.ExtTreeMap Position Relocation) (home : Position) :
    Position :=
  if i.leadsOut bars then i.exit else home

/-- **The farewell of a member**, of whom the world has a record or not. A connected
member is sent to the destination, and stays where they are if it refuses; of one who is
not connected only the note is taken back. -/
def farewell (i : Instance) (notice : String) (bars : Std.ExtTreeMap Position Relocation) :
    Option PlayerRecord → Farewell
  | none => ⟨.offline, none, []⟩
  | some r =>
    let target := i.destination bars r.home
    if r.online then
      { how := if i.leadsOut bars then .toExit else .toHome
        record := some { r with
          position := if target ∈ bars then r.position else target
          instance? := none
          notices := r.notices ++ [notice] }
        targets := if target ∈ bars then [] else [target] }
    else ⟨.offline, some { r with instance? := none }, []⟩

/-- The exit is a destination only if players can be sent there. -/
theorem isValid_destination (i : Instance) (bars : Std.ExtTreeMap Position Relocation)
    {home : Position} (hhome : home.isValid = true) : (i.destination bars home).isValid = true := by
  unfold destination
  split
  · next hleads => exact (Bool.and_eq_true_iff.mp hleads).1
  · exact hhome

/-- A farewell takes nobody anywhere but to the destination. -/
theorem eq_destination_of_mem_targets (i : Instance) {notice : String}
    {bars : Std.ExtTreeMap Position Relocation} {r : PlayerRecord} {target : Position}
    (h : target ∈ (i.farewell notice bars (some r)).targets) :
    target = i.destination bars r.home := by
  unfold farewell at h
  cases honline : r.online with
  | false => simp [honline] at h
  | true =>
    by_cases hbar : i.destination bars r.home ∈ bars
    · simp [honline, hbar] at h
    · simpa [honline, hbar] using h

/-- Nobody is listed twice. -/
theorem nodup_players (i : Instance) : i.players.toList.Nodup :=
  Std.ExtTreeSet.distinct_toList.imp fun hne heq => hne (Std.LawfulEqCmp.compare_eq_iff_eq.mpr heq)

end Instance

namespace MemoryWorld

variable {w w' w'' : MemoryWorld} {i : Instance} {notice : String} {player q : PlayerId}
  {target : Position} {record : PlayerRecord}

/-- The world without its players and without the moves made. -/
def backdrop (w : MemoryWorld) : MemoryWorld := { w with players := ∅, relocations := [] }

/-- The farewell of a player, as things stand. -/
def farewell (w : MemoryWorld) (i : Instance) (notice : String) (player : PlayerId) : Farewell :=
  i.farewell notice w.blocked w.players[player]?

/-- The moves of a player's farewell. -/
def farewellMoves (w : MemoryWorld) (i : Instance) (notice : String) (player : PlayerId) :
    List (PlayerId × Position) :=
  (w.farewell i notice player).targets.map (player, ·)

/-- The world once a player has been sent somewhere. -/
def sent (w : MemoryWorld) (player : PlayerId) (target : Position) : MemoryWorld :=
  if target ∈ w.blocked then w else w.move player target

/-- A position that refuses a move has an answer ready. -/
theorem exists_outcome (h : target ∈ w.blocked) : ∃ outcome, w.blocked[target]? = some outcome :=
  Option.isSome_iff_exists.mp (Std.ExtTreeMap.mem_iff_isSome_getElem?.mp h)

/-- **A player of whom there is a record** is moved, unless the target refuses. -/
theorem run_relocate_of_present (h : w.players[player]? = some record) (mustBeOnline : Bool)
    (honline : mustBeOnline = true → record.online = true) (target : Position) :
    (World.relocate player target mustBeOnline : Action MemoryWorld _).run w
      = ⟨w.blocked[target]?.getD .moved, w.sent player target, []⟩ := by
  have hmust : (mustBeOnline && !record.online) = false := by
    cases mustBeOnline with
    | false => rfl
    | true => rw [honline rfl]; rfl
  rw [run_relocate, sent]
  simp only [moveOutcome, h, hmust]
  by_cases hbar : target ∈ w.blocked
  · obtain ⟨outcome, houtcome⟩ := exists_outcome hbar
    rw [if_pos hbar, houtcome]
    rfl
  · rw [if_neg hbar, Std.ExtTreeMap.getElem?_eq_none hbar]
    rfl

/-! ## One member -/

/-- A connected member is led out, or stays where they are. -/
theorem run_leadOut (i : Instance) (h : w.players[player]? = some record)
    (honline : record.online = true) :
    ((Realm.leadOut i player).run w).answer = i.leadsOut w.blocked ∧
      ((Realm.leadOut i player).run w).state
        = if i.leadsOut w.blocked then w.sent player i.exit else w := by
  unfold Realm.leadOut Instance.leadsOut
  cases hvalid : i.exit.isValid with
  | false => exact ⟨rfl, rfl⟩
  | true =>
    simp only [if_true, Bool.true_and, Action.run_bind,
      run_relocate_of_present h true (fun _ => honline)]
    cases hsuccess : (w.blocked[i.exit]?.getD .moved).succeeded with
    | true => exact ⟨rfl, rfl⟩
    | false =>
      refine ⟨rfl, ?_⟩
      -- only what is barred can end without success
      have hbarred : i.exit ∈ w.blocked := by
        by_contra hfree
        rw [Std.ExtTreeMap.getElem?_eq_none hfree] at hsuccess
        cases hsuccess
      exact if_pos hbarred

/-- **A connected member is sent to the destination**, told why, and not noted any
more. -/
theorem run_evict_of_online (i : Instance) (notice : String)
    (h : w.players[player]? = some record) (honline : record.online = true) :
    ((Realm.evict i notice player).run w).answer
        = (if i.leadsOut w.blocked then .toExit else .toHome) ∧
      ((Realm.evict i notice player).run w).state
        = ((w.sent player (i.destination w.blocked record.home)).notify player notice).noteInstance
            player none := by
  have hinfo := info?_eq_some_iff.mpr ⟨record, h, honline, rfl⟩
  obtain ⟨hout, hled⟩ := run_leadOut i h honline
  unfold Realm.evict Instance.destination
  simp only [Action.run_bind, run_resolve, hinfo, hout, hled]
  cases hleads : i.leadsOut w.blocked with
  | true => exact ⟨rfl, rfl⟩
  | false =>
    have hhome := run_relocate_of_present h false (fun hfalse => by cases hfalse) record.home
    have hsent : ((Realm.sendHome i player record.home).run w).state
        = w.sent player record.home := by
      unfold Realm.sendHome
      rw [Action.run_bind, hhome]
      split <;> rfl
    refine ⟨rfl, ?_⟩
    exact congrArg (fun w : MemoryWorld => (w.notify player notice).noteInstance player none) hsent

/-- A member who is not connected is not noted any more. -/
theorem run_evict_of_absent (h : w.info? player = none) :
    (Realm.evict i notice player).run w = ⟨.offline, w.noteInstance player none, []⟩ := by
  unfold Realm.evict
  rw [Action.run_bind_of_run (run_resolve player), h]
  rfl

/-- What is left once a connected member has been sent somewhere, told something and is
not noted any more. -/
theorem getElem?_sent_away (q : PlayerId) :
    (((w.sent player target).notify player notice).noteInstance player none).players[q]?
      = if player = q then
          w.players[q]?.map fun r =>
            { r with
              position := if target ∈ w.blocked then r.position else target
              instance? := none
              notices := r.notices ++ [notice] }
        else w.players[q]? := by
  rw [getElem?_noteInstance, getElem?_notify, sent]
  by_cases hbar : target ∈ w.blocked
  · simp only [if_pos hbar]
    by_cases hq : player = q
    · simp only [if_pos hq]
      cases w.players[q]? <;> rfl
    · simp only [if_neg hq]
  · simp only [if_neg hbar, getElem?_move]
    by_cases hq : player = q
    · simp only [if_pos hq]
      cases w.players[q]? <;> rfl
    · simp only [if_neg hq]

/-- **The players of a list have been sent away** from an instance, between one world and
another. -/
structure SentAway (i : Instance) (notice : String) (players : List PlayerId)
    (w w' : MemoryWorld) : Prop where
  /-- They have had their farewells, and nobody else's record has changed. -/
  records : ∀ q, w'.players[q]?
    = if q ∈ players then (w.farewell i notice q).record else w.players[q]?
  /-- The moves of their farewells have been written down. -/
  moves : w'.relocations = w.relocations ++ players.flatMap (w.farewellMoves i notice)
  /-- Nothing else has changed. -/
  backdrop : w'.backdrop = w.backdrop

/-- The farewell of a member who is not connected. -/
theorem farewell_of_absent (h : w.info? player = none) :
    w.farewell i notice player
      = ⟨.offline, w.players[player]?.map ({ · with instance? := none }), []⟩ := by
  rw [info?] at h
  rw [farewell]
  cases hrecord : w.players[player]? with
  | none => rfl
  | some record =>
    cases honline : record.online with
    | false => simp [Instance.farewell, honline]
    | true => simp [hrecord, honline] at h

/-- The farewell of a member who is connected. -/
theorem farewell_of_online (h : w.players[player]? = some record)
    (honline : record.online = true) :
    w.farewell i notice player =
      let target := i.destination w.blocked record.home
      { how := if i.leadsOut w.blocked then .toExit else .toHome
        record := some { record with
          position := if target ∈ w.blocked then record.position else target
          instance? := none
          notices := record.notices ++ [notice] }
        targets := if target ∈ w.blocked then [] else [target] } := by
  rw [farewell, h]
  simp only [Instance.farewell, honline, if_true]

/-- One who is not connected has had the farewell. -/
theorem sentAway_evict_of_absent (h : w.info? player = none) :
    SentAway i notice [player] w (w.noteInstance player none) where
  records q := by
    rw [getElem?_noteInstance]
    simp only [List.mem_singleton, eq_comm (a := q)]
    by_cases hq : player = q
    · subst hq
      rw [if_pos rfl, if_pos rfl, farewell_of_absent h]
    · rw [if_neg hq, if_neg hq]
  moves := by simp [farewellMoves, farewell_of_absent h, noteInstance]
  backdrop := rfl

/-- One who is connected has had the farewell. -/
theorem sentAway_evict_of_online (h : w.players[player]? = some record)
    (honline : record.online = true) :
    SentAway i notice [player] w
      (((w.sent player (i.destination w.blocked record.home)).notify player notice).noteInstance
        player none) := by
  refine ⟨fun q => ?_, ?_, ?_⟩
  · rw [getElem?_sent_away]
    simp only [List.mem_singleton, eq_comm (a := q)]
    by_cases hq : player = q
    · subst hq
      rw [if_pos rfl, if_pos rfl, farewell_of_online h honline, h]
      rfl
    · rw [if_neg hq, if_neg hq]
  · simp only [List.flatMap_singleton, farewellMoves, farewell_of_online h honline, sent,
      noteInstance, notify]
    split <;> simp [move]
  · unfold sent
    split <;> rfl

/-- **A member who is sent away has had the farewell.** -/
theorem sentAway_evict (i : Instance) (notice : String) (player : PlayerId) (w : MemoryWorld) :
    ((Realm.evict i notice player).run w).answer = (w.farewell i notice player).how ∧
      SentAway i notice [player] w ((Realm.evict i notice player).run w).state := by
  cases hinfo : w.info? player with
  | none =>
    rw [run_evict_of_absent hinfo, farewell_of_absent hinfo]
    exact ⟨rfl, sentAway_evict_of_absent hinfo⟩
  | some info =>
    obtain ⟨record, hrecord, honline, -⟩ := info?_eq_some_iff.mp hinfo
    obtain ⟨hanswer, hstate⟩ := run_evict_of_online i notice hrecord honline
    rw [hanswer, hstate]
    refine ⟨?_, sentAway_evict_of_online hrecord honline⟩
    rw [farewell_of_online hrecord honline]

/-! ## All members -/

namespace SentAway

variable {players rest : List PlayerId}

/-- The positions that refuse a move are the same. -/
theorem blocked_eq (h : SentAway i notice players w w') : w'.blocked = w.blocked := by
  change w'.backdrop.blocked = w.backdrop.blocked
  rw [h.backdrop]

/-- **The farewells of the others are what they were.** -/
theorem farewell_eq (h : SentAway i notice players w w') (hq : q ∉ players) (j : Instance)
    (notice' : String) : w'.farewell j notice' q = w.farewell j notice' q := by
  rw [farewell, farewell, h.blocked_eq, h.records q, if_neg hq]

/-- Those who come later are not the first, who alone has been sent away. -/
theorem farewell_eq_of_mem (h : SentAway i notice [player] w w') (hplayer : player ∉ rest)
    (hq : q ∈ rest) (j : Instance) (notice' : String) :
    w'.farewell j notice' q = w.farewell j notice' q :=
  h.farewell_eq (notMem_singleton_of_mem hplayer hq) j notice'

/-- First one and then others. -/
theorem cons (hplayer : player ∉ rest) (h : SentAway i notice [player] w w')
    (hrest : SentAway i notice rest w' w'') : SentAway i notice (player :: rest) w w'' where
  records q := by
    rw [hrest.records q, h.records q]
    by_cases hq : q ∈ rest
    · rw [if_pos hq, if_pos (List.mem_cons_of_mem _ hq), h.farewell_eq_of_mem hplayer hq]
    · rw [if_neg hq]
      simp only [List.mem_cons, List.not_mem_nil, hq, or_false]
  moves := by
    have hsame : rest.flatMap (w'.farewellMoves i notice)
        = rest.flatMap (w.farewellMoves i notice) := by
      refine List.flatMap_congr fun q hq => ?_
      rw [farewellMoves, farewellMoves, h.farewell_eq_of_mem hplayer hq]
    rw [hrest.moves, h.moves, hsame, List.append_assoc, List.flatMap_singleton, List.flatMap_cons]
  backdrop := hrest.backdrop.trans h.backdrop

end SentAway

/-- **All members get the farewells that they would have got at the start.** -/
theorem sentAway_evictAll (i : Instance) (notice : String) {players : List PlayerId}
    (hnodup : players.Nodup) (w : MemoryWorld) :
    ((Realm.evictAll i notice players).run w).answer
        = players.map (fun q => (q, (w.farewell i notice q).how)) ∧
      SentAway i notice players w ((Realm.evictAll i notice players).run w).state := by
  induction players generalizing w with
  | nil => exact ⟨rfl, fun q => by simp [Realm.evictAll], by simp [Realm.evictAll], rfl⟩
  | cons player rest ih =>
    obtain ⟨hplayer, hrest⟩ := List.nodup_cons.mp hnodup
    obtain ⟨hhow, hfirst⟩ := sentAway_evict i notice player w
    obtain ⟨hhows, hothers⟩ := ih hrest ((Realm.evict i notice player).run w).state
    rw [Realm.evictAll, Action.run_bind, Action.run_bind_pure]
    refine ⟨?_, hfirst.cons hplayer hothers⟩
    dsimp only
    rw [hhow, hhows, List.map_cons]
    refine congrArg (_ :: ·) (List.map_congr_left fun q hq => ?_)
    rw [hfirst.farewell_eq_of_mem hplayer hq]

end MemoryWorld

namespace Realm

variable {realm realm' realm'' : Realm MemoryWorld} {reason : InstanceId → String}
  {ids : List InstanceId} {id j : InstanceId} {i k : Instance} {q : PlayerId}

/-! ## An instance -/

/-- The report there would be on an instance, were it closed as things stand. -/
def reportOn (realm : Realm MemoryWorld) (i : Instance) (reason : String) : CloseReport :=
  .ofDepartures i reason <| i.players.toList.map fun q =>
    (q, (realm.world.farewell i (i.closingNotice reason) q).how)

/-- The moves there would be if an instance were closed as things stand. -/
def exodus (realm : Realm MemoryWorld) (reason : InstanceId → String) (id : InstanceId) :
    List (PlayerId × Position) :=
  match realm.registry.instances[id]? with
  | none => []
  | some i => i.players.toList.flatMap
      (realm.world.farewellMoves i (i.closingNotice (reason id)))

/-- **The instances of a list have been closed**, each for its reason, between one realm
and another. -/
structure Evacuated (reason : InstanceId → String) (ids : List InstanceId)
    (realm realm' : Realm MemoryWorld) : Prop where
  /-- They are not open any more, and the others are as they were. -/
  instances : ∀ j, realm'.registry.instances[j]?
    = if j ∈ ids then none else realm.registry.instances[j]?
  /-- The templates are what they were. -/
  templates : realm'.registry.templates = realm.registry.templates
  /-- The counter is where it was. -/
  counter : realm'.registry.nextId = realm.registry.nextId
  /-- Their members are in no instance and have had their farewells. -/
  members : ∀ id ∈ ids, ∀ i, realm.registry.instances[id]? = some i → ∀ q ∈ i.players,
    realm'.registry.instanceOf q = none ∧
      realm'.world.players[q]? = (realm.world.farewell i (i.closingNotice (reason id)) q).record
  /-- Whoever was in none of them is where they were, with the record unchanged. -/
  bystanders : ∀ q, (∀ id ∈ ids, realm.registry.instanceOf q ≠ some id) →
    realm'.registry.instanceOf q = realm.registry.instanceOf q ∧
      realm'.world.players[q]? = realm.world.players[q]?
  /-- The moves of the farewells have been written down. -/
  moves : realm'.world.relocations = realm.world.relocations ++ ids.flatMap (realm.exodus reason)
  /-- Of the world nothing else has changed. -/
  backdrop : realm'.world.backdrop = realm.world.backdrop

/-- **Everybody is either a member, who is out and has had the farewell, or a bystander.** -/
theorem Evacuated.member_or_bystander (h : Evacuated reason ids realm realm')
    (tallied : realm.registry.Tallied) (q : PlayerId) :
    (realm'.registry.instanceOf q = none ∧
        ∃ id ∈ ids, ∃ i, realm.registry.instances[id]? = some i ∧ q ∈ i.players ∧
          realm'.world.players[q]?
            = (realm.world.farewell i (i.closingNotice (reason id)) q).record) ∨
      (realm'.registry.instanceOf q = realm.registry.instanceOf q ∧
        (∀ id ∈ ids, realm.registry.instanceOf q ≠ some id) ∧
        realm'.world.players[q]? = realm.world.players[q]?) := by
  by_cases hq : ∃ id ∈ ids, realm.registry.instanceOf q = some id
  · obtain ⟨id, hid, hin⟩ := hq
    obtain ⟨i, hi⟩ := Registry.mem_instances_iff.mp (tallied.sides.mem_of_instanceOf hin)
    have hmem := (tallied.sides.instanceOf_eq_some_iff hi).mp hin
    obtain ⟨hout, hrecord⟩ := h.members id hid i hi q hmem
    exact .inl ⟨hout, id, hid, i, hi, hmem, hrecord⟩
  · have hnone : ∀ id ∈ ids, realm.registry.instanceOf q ≠ some id :=
      fun id hid hin => hq ⟨id, hid, hin⟩
    obtain ⟨hin, hrecord⟩ := h.bystanders q hnone
    exact .inr ⟨hin, hnone, hrecord⟩

/-- **An open instance is dissolved**, and its members are sent away. -/
theorem dissolved_close_of_open (hi : realm.registry.instances[id]? = some i) (reason : String) :
    ((close id reason).run realm).answer = .ok (realm.reportOn i reason) ∧
      ((close id reason).run realm).state.registry = realm.registry.dissolve i ∧
      MemoryWorld.SentAway i (i.closingNotice reason) i.players.toList realm.world
        ((close id reason).run realm).state.world := by
  obtain ⟨hhows, hsent⟩ := MemoryWorld.sentAway_evictAll i (i.closingNotice reason)
    i.nodup_players realm.world
  unfold close
  rw [Action.run_bind_of_run (run_getRegistry realm), hi]
  refine ⟨?_, rfl, hsent⟩
  exact congrArg (fun departures =>
    (.ok (.ofDepartures i reason departures) : Except Refusal CloseReport)) hhows

/-- **Closing an open instance**: its members have their farewells, it is not open any
more, and nothing else changes. -/
theorem evacuated_close_of_open (h : realm.registry.Tallied)
    (hi : realm.registry.instances[id]? = some i) (reason : InstanceId → String) :
    ((close id (reason id)).run realm).answer = .ok (realm.reportOn i (reason id)) ∧
      Evacuated reason [id] realm ((close id (reason id)).run realm).state := by
  have hown := h.own_id hi
  obtain ⟨hanswer, hregistry, hsent⟩ := dissolved_close_of_open hi (reason id)
  have hmem : ∀ q, q ∈ i.players.toList ↔ realm.registry.instanceOf q = some id := fun q =>
    Std.ExtTreeSet.mem_toList.trans (h.sides.instanceOf_eq_some_iff hi).symm
  refine ⟨hanswer, fun j => ?_, ?_, ?_, fun j hj k hk q hq => ?_, fun q hq => ?_, ?_,
    hsent.backdrop⟩
  · rw [hregistry]
    simp only [Registry.getElem?_dissolve, hown, List.mem_singleton, eq_comm (a := j)]
  · rw [hregistry]
    rfl
  · rw [hregistry]
    rfl
  · obtain rfl := List.mem_singleton.mp hj
    obtain rfl := Option.some.inj (hi.symm.trans hk)
    rw [hregistry]
    refine ⟨Registry.instanceOf_dissolve.trans (if_pos hq), (hsent.records q).trans (if_pos ?_)⟩
    exact Std.ExtTreeSet.mem_toList.mpr hq
  · have hout : q ∉ i.players.toList := fun hin =>
      hq id List.mem_cons_self ((hmem q).mp hin)
    rw [hregistry]
    refine ⟨Registry.instanceOf_dissolve.trans (if_neg ?_), (hsent.records q).trans (if_neg hout)⟩
    exact fun hin => hout (Std.ExtTreeSet.mem_toList.mpr hin)
  · rw [List.flatMap_singleton, exodus, hi]
    exact hsent.moves

/-- **Whatever is asked to be closed is not open afterwards**, and nothing has changed but
for its members, of whom there are none if it was not open before. -/
theorem evacuated_close (h : realm.registry.Tallied) (id : InstanceId)
    (reason : InstanceId → String) :
    Evacuated reason [id] realm ((close id (reason id)).run realm).state := by
  by_cases hopen : id ∈ realm.registry.instances
  · obtain ⟨i, hi⟩ := Registry.mem_instances_iff.mp hopen
    exact (evacuated_close_of_open h hi reason).2
  · have hnone := Std.ExtTreeMap.getElem?_eq_none hopen
    rw [run_close_of_notMem hopen]
    refine ⟨fun j => ?_, rfl, rfl, fun j hj i hi => ?_, fun _ _ => ⟨rfl, rfl⟩, ?_, rfl⟩
    · by_cases hj : j ∈ [id]
      · rw [if_pos hj, List.mem_singleton.mp hj, hnone]
      · rw [if_neg hj]
    · rw [List.mem_singleton.mp hj, hnone] at hi
      cases hi
    · rw [List.flatMap_singleton, exodus, hnone, List.append_nil]

end Realm

end InstancedZones
