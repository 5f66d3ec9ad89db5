import InstancedZones.Proofs.ClosingReport
import InstancedZones.Proofs.Teleporting

/-!
# Where the members are when an instance has closed

Of its connected members a report says that they have gone out, or that they have gone home.
The first is said only of those whom the world let out, so they stand at the exit. The second
is said of all others, whatever the world made of it: one whose home is barred has stayed and
is reported home all the same.

So the report and the world agree just in case the exit leads out, or of those who are sent
home nobody's home is barred who is not there already, `Realm.report_true_iff`. Where they
disagree, somebody is left standing inside an instance that is closed,
`Realm.barred_home_reported_reached`.

As for teleports, barred positions must refuse, `MemoryWorld.BarsRefuse`.
-/

namespace InstancedZones

/-- **A report is true of a world**: those who are said to have gone out stand at the exit,
and those who are said to have gone home stand at home. -/
structure CloseReport.TrueOf (report : CloseReport) (exit : Position) (w : MemoryWorld) :
    Prop where
  /-- Whoever has gone out stands at the exit. -/
  exits : ∀ q ∈ report.toExit, ∃ r, w.players[q]? = some r ∧ r.position = exit
  /-- Whoever has gone home stands there. -/
  homes : ∀ q ∈ report.toHome, ∃ r, w.players[q]? = some r ∧ r.position = r.home

namespace MemoryWorld

variable {w w' : MemoryWorld} {i : Instance} {notice : String} {report : CloseReport}
  {q : PlayerId} {r : PlayerRecord}

/-- Who can be seen has a record and is connected. -/
theorem info?_ne_none_iff :
    w.info? q ≠ none ↔ ∃ r, w.players[q]? = some r ∧ r.online = true := by
  rw [Ne, info?_eq_none_iff]
  simp

/-- **Where barred positions refuse**, an instance leads out if its exit can be used and is
not barred. -/
theorem BarsRefuse.leadsOut_iff (bars : w.BarsRefuse) :
    i.leadsOut w.blocked = true ↔ i.exit.isValid = true ∧ i.exit ∉ w.blocked := by
  rw [Instance.leadsOut, Bool.and_eq_true, Relocation.succeeded_iff]
  refine and_congr_right fun _ => ?_
  by_cases hbar : i.exit ∈ w.blocked
  · obtain ⟨outcome, houtcome⟩ := exists_outcome hbar
    refine iff_of_false (fun hmoved => bars i.exit ?_) (not_not_intro hbar)
    rw [houtcome, Option.getD_some] at hmoved
    rw [houtcome, hmoved]
  · rw [Std.ExtTreeMap.getElem?_eq_none hbar]
    exact iff_of_true rfl hbar

namespace GoneAsReported

/-- **A member who is let out** stands at the exit. -/
theorem stands_out (h : GoneAsReported i notice report w w') (bars : w.BarsRefuse)
    (hleads : i.leadsOut w.blocked = true) (hr : w.players[q]? = some r) (hq : q ∈ report.toExit) :
    ∃ r', w'.players[q]? = some r' ∧ r'.home = r.home ∧ r'.position = i.exit := by
  refine ⟨r.sentTo w.blocked i.exit notice, ?_, rfl, if_neg (bars.leadsOut_iff.mp hleads).2⟩
  rw [h.exits q hq, hr, Option.map_some]

/-- **A member who is sent home** stands there, unless the home is barred. -/
theorem stands_home (h : GoneAsReported i notice report w w') (hr : w.players[q]? = some r)
    (hq : q ∈ report.toHome) :
    ∃ r', w'.players[q]? = some r' ∧ r'.home = r.home ∧
      r'.position = if r.home ∈ w.blocked then r.position else r.home := by
  refine ⟨r.sentTo w.blocked r.home notice, ?_, rfl, rfl⟩
  rw [h.homes q hq, hr, Option.map_some]

/-- **Where a connected member stands** who has gone as a report says. -/
theorem stands (h : GoneAsReported i notice report w w') (bars : w.BarsRefuse)
    (hq : q ∈ i.players) (hr : w.players[q]? = some r) (honline : r.online = true) :
    ∃ r', w'.players[q]? = some r' ∧ r'.home = r.home ∧
      ((q ∈ report.toExit ∧ r'.position = i.exit) ∨
        (q ∈ report.toHome ∧
          r'.position = if r.home ∈ w.blocked then r.position else r.home)) := by
  have hseen := info?_ne_none_iff.mpr ⟨r, hr, honline⟩
  cases hleads : i.leadsOut w.blocked with
  | true =>
    have hout := (h.mem_toExit q).mpr ⟨hq, hseen, hleads⟩
    obtain ⟨r', hr', hhome, hposition⟩ := h.stands_out bars hleads hr hout
    exact ⟨r', hr', hhome, .inl ⟨hout, hposition⟩⟩
  | false =>
    have hsent := (h.mem_toHome q).mpr ⟨hq, hseen, hleads⟩
    obtain ⟨r', hr', hhome, hposition⟩ := h.stands_home hr hsent
    exact ⟨r', hr', hhome, .inr ⟨hsent, hposition⟩⟩

/-- **When the report on an instance is true**: it leads out, or no connected member is kept
away from home by a bar. -/
theorem trueOf_iff (h : GoneAsReported i notice report w w') (bars : w.BarsRefuse) :
    report.TrueOf i.exit w'
      ↔ i.leadsOut w.blocked = true ∨
        ∀ q ∈ i.players, ∀ r, w.players[q]? = some r → r.online = true →
          r.home ∈ w.blocked → r.position = r.home := by
  cases hleads : i.leadsOut w.blocked with
  | true =>
    -- nobody is sent home
    refine iff_of_true ⟨fun q hq => ?_, fun q hq => ?_⟩ (.inl rfl)
    · obtain ⟨r, hr, -⟩ := info?_ne_none_iff.mp ((h.mem_toExit q).mp hq).2.1
      obtain ⟨r', hr', -, hposition⟩ := h.stands_out bars hleads hr hq
      exact ⟨r', hr', hposition⟩
    · cases hleads.symm.trans ((h.mem_toHome q).mp hq).2.2
  | false =>
    -- nobody is let out
    simp only [Bool.false_eq_true, false_or]
    constructor
    · intro htrue q hq r hr honline hbar
      have hsent := (h.mem_toHome q).mpr ⟨hq, info?_ne_none_iff.mpr ⟨r, hr, honline⟩, hleads⟩
      obtain ⟨r', hr', hathome⟩ := htrue.homes q hsent
      obtain ⟨r'', hr'', hhome, hposition⟩ := h.stands_home hr hsent
      obtain rfl := Option.some.inj (hr'.symm.trans hr'')
      rw [if_pos hbar] at hposition
      rw [← hposition, hathome, hhome]
    · intro hhomes
      refine ⟨fun q hq => ?_, fun q hq => ?_⟩
      · cases hleads.symm.trans ((h.mem_toExit q).mp hq).2.2
      · obtain ⟨hin, hseen, -⟩ := (h.mem_toHome q).mp hq
        obtain ⟨r, hr, honline⟩ := info?_ne_none_iff.mp hseen
        obtain ⟨r', hr', hhome, hposition⟩ := h.stands_home hr hq
        refine ⟨r', hr', ?_⟩
        rw [hposition, hhome]
        split
        · next hbar => exact hhomes q hin r hr honline hbar
        · rfl

end GoneAsReported

end MemoryWorld

namespace Realm

variable {realm : Realm MemoryWorld} {id : InstanceId} {i : Instance}

/-- **When the report on a closed instance and the world agree**, in whatever way positions
are barred, as long as barred positions refuse. Every connected member is reported, and stands
at the exit, or else at home unless it is barred; one whose home is barred has not moved. So
the report is true just in case the exit can be used and is not barred, or no connected member
has a barred home and is not there already. -/
theorem report_true_iff (bars : realm.world.BarsRefuse)
    (hi : realm.registry.instances[id]? = some i) (reason : String) :
    let closing := (close id reason).run realm
    ∃ report, closing.answer = .ok report ∧
      (∀ q ∈ i.players, ∀ r, realm.world.players[q]? = some r → r.online = true →
        ∃ r', closing.state.world.players[q]? = some r' ∧ r'.home = r.home ∧
          ((q ∈ report.toExit ∧ r'.position = i.exit) ∨
            (q ∈ report.toHome ∧
              r'.position = if r.home ∈ realm.world.blocked then r.position else r.home))) ∧
      (report.TrueOf i.exit closing.state.world
        ↔ (i.exit.isValid = true ∧ i.exit ∉ realm.world.blocked) ∨
          ∀ q ∈ i.players, ∀ r, realm.world.players[q]? = some r → r.online = true →
            r.home ∈ realm.world.blocked → r.position = r.home) := by
  obtain ⟨hanswer, -, hsent⟩ := dissolved_close_of_open hi reason
  have hgone := hsent.goneAsReported reason
  refine ⟨_, hanswer, fun q hq r hr honline => hgone.stands bars hq hr honline, ?_⟩
  rw [← bars.leadsOut_iff]
  exact hgone.trueOf_iff bars

/-- The exit of an instance is barred and the homes are not: the player who was teleported in
is reported home, and is there. -/
theorem barred_exit_reported_home :
    ∃ log realm, Run MemoryWorld.Change ⟨.ofSettings .usual, MemoryWorld.trio⟩ log realm ∧
      log.map Prod.fst = [.create { Blueprint.plain with
        name := "Crypt", entry := ⟨100, 100, 7⟩, exit := ⟨50, 50, 7⟩ } .epoch,
        .teleportInto ⟨1⟩ ⟨1⟩] ∧
      realm.world.BarsRefuse ∧
      let closing := (close ⟨1⟩ "done").run realm
      let report : CloseReport := ⟨⟨1⟩, "Crypt", "done", [], [⟨1⟩], []⟩
      ∃ i, realm.registry.instances[(⟨1⟩ : InstanceId)]? = some i ∧ i.exit ∈ realm.world.blocked ∧
        closing.answer = .ok report ∧ report.TrueOf i.exit closing.state.world := by
  have opened : Run MemoryWorld.Change ⟨.ofSettings .usual, MemoryWorld.trio⟩ _ _ :=
    .call (.create { Blueprint.plain with
      name := "Crypt", entry := ⟨100, 100, 7⟩, exit := ⟨50, 50, 7⟩ } .epoch) .start
      fun _ _ => ⟨0, by decide +kernel⟩
  have run := (opened.call (.teleportInto ⟨1⟩ ⟨1⟩) trivial).drift
    (.block ⟨50, 50, 7⟩ .destinationOccupied)
  have bars : ∀ w : MemoryWorld, w.blocked = ∅ →
      (w.block ⟨50, 50, 7⟩ .destinationOccupied).BarsRefuse := fun w h =>
    (MemoryWorld.barsRefuse_of_blocked_eq_empty h).block (by decide)
  refine ⟨_, _, run, rfl, bars _ rfl, ?_⟩
  intro closing report
  obtain ⟨i, hi, -⟩ := Registry.isPlayerBound_iff.mp
    ((run.consistent.tallied.sides ⟨1⟩ ⟨1⟩).mp rfl)
  have hexit : some i.exit = some ⟨50, 50, 7⟩ := congrArg (Option.map Instance.exit) hi.symm
  have hplayers : some i.players.toList = some [⟨1⟩] :=
    congrArg (Option.map fun i : Instance => i.players.toList) hi.symm
  have hanswer : closing.answer = .ok report := by decide +kernel
  obtain ⟨reported, hreported, -, htrue⟩ := report_true_iff (bars _ rfl) hi "done"
  obtain rfl := Except.ok.inj (hanswer.symm.trans hreported)
  refine ⟨i, hi, ?_, hanswer, htrue.mpr (.inr fun q hq r hr _ hbar => ?_)⟩
  · rw [Option.some.inj hexit]
    decide +kernel
  · -- the one member lives where nothing is barred
    rw [← Std.ExtTreeSet.mem_toList, Option.some.inj hplayers] at hq
    obtain rfl := List.mem_singleton.mp hq
    have hhome : some r.home = some ⟨32, 32, 7⟩ := congrArg (Option.map PlayerRecord.home) hr.symm
    rw [Option.some.inj hhome] at hbar
    exact absurd hbar (by decide +kernel)

/-- The home of a player is barred, and the exit of the instance the player was teleported into
was never set: the player is reported home, and is still at the entry. -/
theorem barred_home_reported_reached :
    ∃ log realm, Run MemoryWorld.Change ⟨.ofSettings .usual, MemoryWorld.trio⟩ log realm ∧
      log.map Prod.fst = [.create { Blueprint.plain with
        name := "Crypt", entry := ⟨100, 100, 7⟩ } .epoch, .teleportInto ⟨1⟩ ⟨1⟩] ∧
      realm.world.BarsRefuse ∧
      let closing := (close ⟨1⟩ "done").run realm
      let report : CloseReport := ⟨⟨1⟩, "Crypt", "done", [], [⟨1⟩], []⟩
      ∃ i, realm.registry.instances[(⟨1⟩ : InstanceId)]? = some i ∧ closing.answer = .ok report ∧
        (∃ r, closing.state.world.players[(⟨1⟩ : PlayerId)]? = some r ∧ r.online = true ∧
          r.position = i.entry) ∧
        ¬ report.TrueOf i.exit closing.state.world := by
  have opened : Run MemoryWorld.Change ⟨.ofSettings .usual, MemoryWorld.trio⟩ _ _ :=
    .call (.create { Blueprint.plain with name := "Crypt", entry := ⟨100, 100, 7⟩ } .epoch) .start
      fun _ _ => ⟨0, by decide +kernel⟩
  have run := (opened.call (.teleportInto ⟨1⟩ ⟨1⟩) trivial).drift
    (.block ⟨32, 32, 7⟩ .notPossible)
  have bars : ∀ w : MemoryWorld, w.blocked = ∅ →
      (w.block ⟨32, 32, 7⟩ .notPossible).BarsRefuse := fun w h =>
    (MemoryWorld.barsRefuse_of_blocked_eq_empty h).block (by decide)
  refine ⟨_, _, run, rfl, bars _ rfl, ?_⟩
  intro closing report
  refine ⟨_, rfl, by decide +kernel, ⟨_, rfl, by decide +kernel, by decide +kernel⟩, fun htrue => ?_⟩
  obtain ⟨r, hr, hathome⟩ := htrue.homes ⟨1⟩ List.mem_cons_self
  have hstays : closing.state.world.players[(⟨1⟩ : PlayerId)]?.map
      (fun r => decide (r.position = r.home)) = some false := by decide +kernel
  rw [hr, Option.map_some, decide_eq_true hathome] at hstays
  cases hstays

end Realm

end InstancedZones
