import InstancedZones.Proofs.Farewells

/-!
# The report on a closed instance

A report sorts the members of an instance by how they departed. So whatever has become of
them, its three lists are in ascending order, have nobody in common, and together name
exactly the members, `CloseReport.AccountsFor`.

Over a world in memory it is known who is on which list. Those who cannot be seen are
offline. All others go the same way: out, if the exit can be used and answers with success,
and home if not. The records of the members have changed as the report says, and apart from
the members and the instance nothing has changed, `Realm.closed_as_reported`.

What counts is the answer of the world. An exit that is barred and answers with success all
the same counts as taken, though nobody gets there, `Realm.barred_exit_counts_as_taken`.
-/

namespace InstancedZones

/-- The players of an instance come in ascending order. -/
theorem Instance.ordered_players (i : Instance) :
    i.players.toList.Pairwise (·.number < ·.number) := by
  refine Std.ExtTreeSet.ordered_toList.imp fun {a b} h => ?_
  exact Std.compare_eq_lt.mp h

/-! ## The lists of a report -/

namespace CloseReport

/-- **A report accounts for some players**: each of them is on exactly one of its lists. -/
structure AccountsFor (report : CloseReport) (players : Std.ExtTreeSet PlayerId) : Prop where
  /-- Every list is in ascending order. -/
  ascending : ∀ l ∈ [report.toExit, report.toHome, report.offline],
    l.Pairwise (·.number < ·.number)
  /-- No two lists have anybody in common. -/
  separate : [report.toExit, report.toHome, report.offline].Pairwise List.Disjoint
  /-- Together they name exactly the players. -/
  covered : ∀ q, q ∈ report.toExit ∨ q ∈ report.toHome ∨ q ∈ report.offline ↔ q ∈ players

variable {players : List PlayerId} {q : PlayerId} {d d' : Departure}

/-- Those who departed in one way are some of all, in their order. -/
theorem departed_map (players : List PlayerId) (how : PlayerId → Departure) (d : Departure) :
    departed (players.map fun q => (q, how q)) d = players.filter fun q => how q == d := by
  rw [departed, List.filter_map, List.map_map]
  exact List.map_id _

theorem mem_departed_map {how : PlayerId → Departure} :
    q ∈ departed (players.map fun q => (q, how q)) d ↔ q ∈ players ∧ how q = d := by
  rw [departed_map, List.mem_filter, beq_iff_eq]

/-- Nobody departs in two ways. -/
theorem disjoint_departed_map {how : PlayerId → Departure} (hne : d ≠ d') :
    (departed (players.map fun q => (q, how q)) d).Disjoint
      (departed (players.map fun q => (q, how q)) d') := by
  intro q hq hq'
  exact hne ((mem_departed_map.mp hq).2.symm.trans (mem_departed_map.mp hq').2)

/-- **The report on an instance accounts for its members**, however each has departed. -/
theorem accountsFor_ofDepartures (i : Instance) (reason : String) (how : PlayerId → Departure) :
    (ofDepartures i reason (i.players.toList.map fun q => (q, how q))).AccountsFor i.players where
  ascending := by
    have hordered : ∀ d, (departed (i.players.toList.map fun q => (q, how q)) d).Pairwise
        (·.number < ·.number) := fun d => by
      rw [departed_map]
      exact i.ordered_players.sublist List.filter_sublist
    simp only [List.forall_mem_cons, List.not_mem_nil, false_imp_iff, implies_true, and_true]
    exact ⟨hordered .toExit, hordered .toHome, hordered .offline⟩
  separate := by
    simp only [List.pairwise_cons, List.forall_mem_cons, List.not_mem_nil, false_imp_iff,
      implies_true, and_true, List.Pairwise.nil]
    exact ⟨⟨disjoint_departed_map (by decide), disjoint_departed_map (by decide)⟩,
      disjoint_departed_map (by decide)⟩
  covered q := by
    simp only [ofDepartures, mem_departed_map, ← and_or_left, Std.ExtTreeSet.mem_toList]
    refine and_iff_left ?_
    cases how q <;> decide

end CloseReport

/-! ## What has become of the members -/

/-- The record of a connected member who has been sent somewhere, `bars` giving the
positions that refuse a move: the member is there, unless it refuses, has had one more
notice, and is not noted anywhere. -/
def PlayerRecord.sentTo (r : PlayerRecord) (bars : Std.ExtTreeMap Position Relocation)
    (target : Position) (notice : String) : PlayerRecord :=
  { r with
    position := if target ∈ bars then r.position else target
    instance? := none
    notices := r.notices ++ [notice] }

namespace MemoryWorld

variable {w w' : MemoryWorld} {i : Instance} {notice : String} {report : CloseReport}
  {q : PlayerId}

/-- **The members of an instance have gone as a report says**, between one world and
another. -/
structure GoneAsReported (i : Instance) (notice : String) (report : CloseReport)
    (w w' : MemoryWorld) : Prop where
  /-- Those who could not be seen are offline. -/
  mem_offline : ∀ q, q ∈ report.offline ↔ q ∈ i.players ∧ w.info? q = none
  /-- All others have gone out, if the instance leads out. -/
  mem_toExit : ∀ q, q ∈ report.toExit
    ↔ q ∈ i.players ∧ w.info? q ≠ none ∧ i.leadsOut w.blocked = true
  /-- All others have gone home, if it does not. -/
  mem_toHome : ∀ q, q ∈ report.toHome
    ↔ q ∈ i.players ∧ w.info? q ≠ none ∧ i.leadsOut w.blocked = false
  /-- Whoever has gone out has been sent to the exit. -/
  exits : ∀ q ∈ report.toExit,
    w'.players[q]? = w.players[q]?.map fun r => r.sentTo w.blocked i.exit notice
  /-- Whoever has gone home has been sent there. -/
  homes : ∀ q ∈ report.toHome,
    w'.players[q]? = w.players[q]?.map fun r => r.sentTo w.blocked r.home notice
  /-- Of those who are offline nothing has changed but the note. -/
  absent : ∀ q ∈ report.offline, w'.players[q]? = w.players[q]?.map ({ · with instance? := none })
  /-- No member is noted anywhere. -/
  notes : ∀ q ∈ i.players, w'.instanceOf q = none
  /-- Nobody else's record has changed. -/
  others : ∀ q, q ∉ i.players → w'.players[q]? = w.players[q]?
  /-- The moves of the members have been written down. -/
  moves : w'.relocations = w.relocations ++ i.players.toList.flatMap (w.farewellMoves i notice)
  /-- Nothing else has changed. -/
  backdrop : w'.backdrop = w.backdrop

/-- **How a member departs**: offline if the member cannot be seen, and else out or home, as
the instance leads out or not. -/
theorem how_farewell (w : MemoryWorld) (i : Instance) (notice : String) (q : PlayerId) :
    (w.farewell i notice q).how
      = if w.info? q = none then .offline
        else if i.leadsOut w.blocked then .toExit else .toHome := by
  cases hinfo : w.info? q with
  | none => rw [farewell_of_absent hinfo, if_pos rfl]
  | some info =>
    obtain ⟨r, hr, honline, -⟩ := info?_eq_some_iff.mp hinfo
    rw [farewell_of_online hr honline, if_neg (Option.some_ne_none info)]

/-- The record of a member afterwards. -/
theorem record_farewell (w : MemoryWorld) (i : Instance) (notice : String) (q : PlayerId) :
    (w.farewell i notice q).record
      = w.players[q]?.map fun r =>
          if w.info? q = none then { r with instance? := none }
          else r.sentTo w.blocked (i.destination w.blocked r.home) notice := by
  cases hinfo : w.info? q with
  | none => simp only [farewell_of_absent hinfo, if_true]
  | some info =>
    obtain ⟨r, hr, honline, -⟩ := info?_eq_some_iff.mp hinfo
    rw [farewell_of_online hr honline, hr, Option.map_some, if_neg (Option.some_ne_none info)]
    rfl

/-- How the members depart, in their order. -/
def departures (w : MemoryWorld) (i : Instance) (notice : String) : List (PlayerId × Departure) :=
  i.players.toList.map fun q => (q, (w.farewell i notice q).how)

theorem mem_departed {d : Departure} :
    q ∈ CloseReport.departed (w.departures i notice) d
      ↔ q ∈ i.players ∧ (if w.info? q = none then .offline
          else if i.leadsOut w.blocked then .toExit else .toHome) = d := by
  rw [departures, CloseReport.mem_departed_map, how_farewell, Std.ExtTreeSet.mem_toList]

theorem mem_departed_offline :
    q ∈ CloseReport.departed (w.departures i notice) .offline
      ↔ q ∈ i.players ∧ w.info? q = none := by
  rw [mem_departed]
  split_ifs <;> simp [*]

theorem mem_departed_toExit :
    q ∈ CloseReport.departed (w.departures i notice) .toExit
      ↔ q ∈ i.players ∧ w.info? q ≠ none ∧ i.leadsOut w.blocked = true := by
  rw [mem_departed]
  split_ifs <;> simp [*]

theorem mem_departed_toHome :
    q ∈ CloseReport.departed (w.departures i notice) .toHome
      ↔ q ∈ i.players ∧ w.info? q ≠ none ∧ i.leadsOut w.blocked = false := by
  rw [mem_departed]
  split_ifs <;> simp [*]

/-- **Members who have had their farewells have gone as the report on them says.** -/
theorem SentAway.goneAsReported (h : SentAway i notice i.players.toList w w') (reason : String) :
    GoneAsReported i notice (.ofDepartures i reason (w.departures i notice)) w w' := by
  have hmem : ∀ q, q ∈ i.players.toList ↔ q ∈ i.players := fun q => Std.ExtTreeSet.mem_toList
  have hrecord : ∀ q ∈ i.players, w'.players[q]? = w.players[q]?.map fun r =>
      if w.info? q = none then { r with instance? := none }
      else r.sentTo w.blocked (i.destination w.blocked r.home) notice := fun q hq => by
    rw [← record_farewell, h.records q, if_pos ((hmem q).mpr hq)]
  -- being on a list tells whether the member was seen, and where the destination is
  refine ⟨fun q => mem_departed_offline, fun q => mem_departed_toExit,
    fun q => mem_departed_toHome, fun q hq => ?_, fun q hq => ?_, fun q hq => ?_,
    fun q hq => ?_, fun q hq => ?_, h.moves, h.backdrop⟩
  · obtain ⟨hin, hseen, hleads⟩ := mem_departed_toExit.mp hq
    simp only [hrecord q hin, if_neg hseen, Instance.destination, hleads, if_true]
  · obtain ⟨hin, hseen, hleads⟩ := mem_departed_toHome.mp hq
    simp only [hrecord q hin, if_neg hseen, Instance.destination, hleads]
    rfl
  · obtain ⟨hin, hunseen⟩ := mem_departed_offline.mp hq
    simp only [hrecord q hin, hunseen, if_true]
  · rw [instanceOf, hrecord q hq]
    cases w.players[q]? with
    | none => rfl
    | some r =>
      rw [Option.map_some]
      split_ifs <;> rfl
  · exact (h.records q).trans (if_neg fun hlisted => hq ((hmem q).mp hlisted))

end MemoryWorld

namespace Realm

variable {realm : Realm MemoryWorld}

/-- **An instance is closed as the report on it says.** If it is not open, it is not found and
nothing changes. If it is open, there is a report with its name and the reason, which accounts
for its members, and these have gone as it says. The instance is not open any more and its
members are in none; the other instances, who else is in them, the templates and the counter
are what they were; and the registry is tallied again. -/
theorem closed_as_reported (tallied : realm.registry.Tallied) (id : InstanceId)
    (reason : String) :
    let closing := (close id reason).run realm
    (id ∉ realm.registry.instances →
      closing.answer = .error (.notFound id) ∧ closing.state = realm) ∧
    ∀ i, realm.registry.instances[id]? = some i →
      ∃ report, closing.answer = .ok report ∧
        report.id = id ∧ report.name = i.name ∧ report.reason = reason ∧
        report.AccountsFor i.players ∧
        MemoryWorld.GoneAsReported i s!"The instance '{i.name}' has been closed: {reason}." report
          realm.world closing.state.world ∧
        (∀ j, closing.state.registry.instances[j]?
          = if j = id then none else realm.registry.instances[j]?) ∧
        (∀ q, closing.state.registry.instanceOf q
          = if q ∈ i.players then none else realm.registry.instanceOf q) ∧
        closing.state.registry.templates = realm.registry.templates ∧
        closing.state.registry.nextId = realm.registry.nextId ∧
        closing.state.registry.Tallied := by
  intro closing
  refine ⟨fun hclosed => ?_, fun i hi => ?_⟩
  · have hrun : closing = _ := run_close_of_notMem hclosed
    rw [hrun]
    exact ⟨rfl, rfl⟩
  · have hown := tallied.own_id hi
    obtain ⟨hanswer, hregistry, hsent⟩ := dissolved_close_of_open hi reason
    refine ⟨_, hanswer, hown, rfl, rfl, CloseReport.accountsFor_ofDepartures i reason _,
      hsent.goneAsReported reason, fun j => ?_, fun q => ?_, ?_, ?_,
      keeps_tallied_close id reason realm tallied⟩
    · rw [hregistry, Registry.getElem?_dissolve, hown]
      simp only [eq_comm (a := j)]
    · rw [hregistry, Registry.instanceOf_dissolve]
    · rw [hregistry]
      rfl
    · rw [hregistry]
      rfl

/-- One of three has lost the connection when the instance they are in closes: the others
come out at the exit, and the one who stays behind is not noted as being in it any more. -/
theorem trio_closed_as_reported :
    ∃ log realm, Run MemoryWorld.Change ⟨.ofSettings .usual, MemoryWorld.trio⟩ log realm ∧
      log.map Prod.fst = [.create { Blueprint.plain with name := "Crypt", exit := ⟨50, 50, 7⟩ }
        .epoch, .bindParty ⟨1⟩ ⟨1⟩] ∧
      realm.registry.Tallied ∧
      let closing := (close ⟨1⟩ "done").run realm
      let report : CloseReport := ⟨⟨1⟩, "Crypt", "done", [⟨1⟩, ⟨3⟩], [], [⟨2⟩]⟩
      closing.answer = .ok report ∧
        (∃ i, realm.registry.instances[(⟨1⟩ : InstanceId)]? = some i ∧
          report.AccountsFor i.players) ∧
        closing.state.world.players[(⟨3⟩ : PlayerId)]?
          = some ⟨30, true, ⟨50, 50, 7⟩, ⟨32, 32, 7⟩, none,
              ["The instance 'Crypt' has been closed: done."]⟩ ∧
        closing.state.world.instanceOf ⟨2⟩ = none := by
  have opened : Run MemoryWorld.Change ⟨.ofSettings .usual, MemoryWorld.trio⟩ _ _ :=
    .call (.create { Blueprint.plain with name := "Crypt", exit := ⟨50, 50, 7⟩ } .epoch) .start
      fun _ _ => ⟨0, by decide +kernel⟩
  have run := (opened.call (.bindParty ⟨1⟩ ⟨1⟩) trivial).drift (.setOnline ⟨2⟩ false)
  have tallied := run.consistent.tallied
  refine ⟨_, _, run, rfl, tallied, ?_⟩
  intro closing report
  have hanswer : closing.answer = .ok report := by decide +kernel
  obtain ⟨i, hi, hin⟩ := Registry.isPlayerBound_iff.mp ((tallied.sides ⟨2⟩ ⟨1⟩).mp rfl)
  obtain ⟨reported, hreported, -, -, -, haccounts, hgone, -⟩ :=
    (closed_as_reported tallied ⟨1⟩ "done").2 i hi
  obtain rfl := Except.ok.inj (hanswer.symm.trans hreported)
  exact ⟨hanswer, ⟨i, hi, haccounts⟩, by decide +kernel, hgone.notes ⟨2⟩ hin⟩

/-- The exit of an instance is barred but answers with success: the player who is in it counts
as having gone there, and is still at the entry. -/
theorem barred_exit_counts_as_taken :
    ∃ log realm, Run MemoryWorld.Change ⟨.ofSettings .usual, MemoryWorld.trio⟩ log realm ∧
      log.map Prod.fst = [.create { Blueprint.plain with
        name := "Crypt", entry := ⟨100, 100, 7⟩, exit := ⟨50, 50, 7⟩ } .epoch,
        .teleportInto ⟨1⟩ ⟨1⟩] ∧
      realm.registry.Tallied ∧
      let closing := (close ⟨1⟩ "done").run realm
      ∃ i, realm.registry.instances[(⟨1⟩ : InstanceId)]? = some i ∧
        i.exit ∈ realm.world.blocked ∧
        closing.answer = .ok ⟨⟨1⟩, "Crypt", "done", [⟨1⟩], [], []⟩ ∧
        ∃ r, closing.state.world.players[(⟨1⟩ : PlayerId)]? = some r ∧
          r.position = i.entry ∧ r.position ≠ i.exit := by
  have opened : Run MemoryWorld.Change ⟨.ofSettings .usual, MemoryWorld.trio⟩ _ _ :=
    .call (.create { Blueprint.plain with
      name := "Crypt", entry := ⟨100, 100, 7⟩, exit := ⟨50, 50, 7⟩ } .epoch) .start
      fun _ _ => ⟨0, by decide +kernel⟩
  have run := (opened.call (.teleportInto ⟨1⟩ ⟨1⟩) trivial).drift (.block ⟨50, 50, 7⟩ .moved)
  refine ⟨_, _, run, rfl, run.consistent.tallied, ?_⟩
  intro closing
  exact ⟨_, rfl, by decide +kernel, by decide +kernel, _, rfl, by decide +kernel, by decide +kernel⟩

end Realm

end InstancedZones
