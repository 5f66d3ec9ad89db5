import InstancedZones.Proofs.Farewells
import InstancedZones.Proofs.Merging
import InstancedZones.Proofs.Unanimity

/-!
# It makes no difference who of a party asks

When a party is formed, each of its players is given a list of the others: the leader the
members as they were named, and each member the leader first and then the others. If somebody
was named twice, or the leader was named too, the lists say so. So no two players of a party
need have the same list, nor one of the same length.

What they agree on is who is in the party, `Realm.mem_party_iff`. Whoever asks
asks for all of them, in an order that is the asker's own; and since the verdict on one does
not depend on those before, the party comes in whoever asks or stays out whoever asks, and if
it comes in the outcome is the same in everything, `Realm.bindParty_same_for_all`.

The lists stay as they are whatever calls are made, and until one of the players is put into
a party again, `Run.partyStands`.
-/

namespace InstancedZones

namespace MemoryWorld

variable {w w' : MemoryWorld} {leader q : PlayerId} {members : List PlayerId}

/-- **What the players of a party are told of it** when it is formed, and nobody else is told
anything. -/
theorem getElem?_formParty :
    (w.formParty leader members).parties[q]?
      = if q ∈ members then some (leader :: members.filter (· ≠ q))
        else if leader = q then some members else w.parties[q]? := by
  refine (Table.getElem?_foldl_insert members (fun member => leader :: members.filter (· ≠ member))
    (w.parties.insert leader members) q).trans ?_
  rw [Table.getElem?_insert]

/-- **A party stands**: its players have been told of it when it was formed, and of no party
since. -/
def PartyStands (w : MemoryWorld) (leader : PlayerId) (members : List PlayerId) : Prop :=
  ∃ before : MemoryWorld, ∀ q ∈ leader :: members,
    w.parties[q]? = (before.formParty leader members).parties[q]?

/-- A party that has been formed stands. -/
theorem partyStands_formParty (w : MemoryWorld) (leader : PlayerId) (members : List PlayerId) :
    (w.formParty leader members).PartyStands leader members :=
  ⟨w, fun _ _ => rfl⟩

/-- **The world has gone on and left these players in their parties**, whatever else it has
done. -/
def Spares (players : List PlayerId) (w w' : MemoryWorld) : Prop :=
  ∀ q ∈ players, w'.parties[q]? = w.parties[q]?

/-- Players are left in their parties when others form one. -/
theorem spares_formParty {players : List PlayerId} (h : ∀ q ∈ players, q ∉ leader :: members) :
    Spares players w (w.formParty leader members) := by
  intro q hq
  obtain ⟨hleader, hmember⟩ := not_or.mp (fun hin => h q hq (List.mem_cons.mpr hin))
  rw [getElem?_formParty, if_neg hmember, if_neg (Ne.symm hleader)]

theorem PartyStands.of_spares (h : w.PartyStands leader members)
    (hspares : Spares (leader :: members) w w') : w'.PartyStands leader members :=
  let ⟨before, hbefore⟩ := h
  ⟨before, fun q hq => (hspares q hq).trans (hbefore q hq)⟩

end MemoryWorld

/-- **No call makes or breaks a party**, so what holds of the parties goes on to hold. -/
theorem Realm.stepsKeep_parties (P : Std.ExtTreeMap PlayerId (List PlayerId) → Prop) :
    StepsKeep fun realm : Realm MemoryWorld => P realm.world.parties where
  toEntriesKeep := .ofSteps (fun _ _ _ h _ => h) fun realm player h => by
    have hparties : (realm.leave player).world.parties = realm.world.parties :=
      congrArg (fun setting : Setting => setting.world.parties)
        (Step.leave.setting_apply player realm)
    exact hparties ▸ h
  readyTemplate name realm h := by
    rw [run_readyTemplate]
    dsimp only
    rw [(TemplateCache.ensureLoaded_outcome _ name realm.world).1]
    split <;> exact h
  arrival player h _ := by
    rw [run_onWorld, MemoryWorld.run_relocate]
    dsimp only
    split <;> exact h
  close id reason realm h := by
    by_cases hopen : id ∈ realm.registry.instances
    · obtain ⟨i, hi⟩ := Registry.mem_instances_iff.mp hopen
      have hparties := congrArg MemoryWorld.parties (dissolved_close_of_open hi reason).2.2.backdrop
      exact (show ((close id reason).run realm).state.world.parties = realm.world.parties
        from hparties) ▸ h
    · rw [run_close_of_notMem hopen]
      exact h
  opening _ _ h _ _ := h

/-- **A party that stands goes on standing** whatever calls are made and however the world goes
on, as long as it leaves the players of the party in it. -/
theorem Run.partyStands {leader : PlayerId} {members : List PlayerId}
    {start realm : Realm MemoryWorld} {log : List (Call × Except Refusal Reply)}
    (run : Run (MemoryWorld.Spares (leader :: members)) start log realm)
    (stands : start.world.PartyStands leader members) :
    realm.world.PartyStands leader members :=
  run.keeps (I := fun realm => realm.world.PartyStands leader members)
    (Realm.stepsKeep_parties fun parties => ∃ before : MemoryWorld, ∀ q ∈ leader :: members,
      parties[q]? = (before.formParty leader members).parties[q]?)
    (fun _ _ h goes => h.of_spares goes) stands

namespace Realm

variable {realm : Realm MemoryWorld} {leader a b q : PlayerId} {members : List PlayerId}
  {id : InstanceId}

/-- **Whoever of a party is asked for it** names all of its players, and nobody else. -/
theorem mem_party_iff (stands : realm.world.PartyStands leader members)
    (ha : a ∈ leader :: members) : q ∈ realm.party a ↔ q ∈ leader :: members := by
  obtain ⟨before, hbefore⟩ := stands
  rw [party, List.mem_eraseDups, hbefore a ha, MemoryWorld.getElem?_formParty]
  by_cases hmember : a ∈ members
  · rw [if_pos hmember, Option.getD_some]
    by_cases hq : q = a
    · subst hq
      exact iff_of_true List.mem_cons_self (List.mem_cons_of_mem _ hmember)
    · simp [hq]
  · -- the leader, who has not been named among the members
    obtain rfl : a = leader := (List.mem_cons.mp ha).resolve_right hmember
    rw [if_neg hmember, if_pos rfl, Option.getD_some]

/-- **When a party comes in**: if all of its players are admitted. -/
theorem bindParty_ok_iff :
    ((bindParty leader id).run realm).answer = .ok ()
      ↔ ∀ q ∈ realm.party leader, realm.admits id q = true := by
  cases hback : realm.back leader id with
  | nil =>
    refine iff_of_true (run_bindParty_of_admits hback).1 ?_
    rw [← front_eq_party hback]
    exact admits_of_mem_front realm leader id
  | cons player rest =>
    obtain ⟨refusal, hdeclined, hanswer, -⟩ := run_bindParty_of_declined hback
    refine iff_of_false (fun hok => ?_) fun hall => ?_
    · cases hanswer.symm.trans hok
    · have hmem : player ∈ realm.party leader := by
        rw [← front_append_back realm leader id, hback]
        exact List.mem_append_right _ List.mem_cons_self
      cases hdeclined.symm.trans (admits_iff.mp (hall player hmem))

/-- **A party that is let in**, whoever of it has asked: each of its players stands inside, and
nothing else has changed. -/
theorem bindParty_inside (sides : realm.registry.SidesAgree)
    (stands : realm.world.PartyStands leader members) (ha : a ∈ leader :: members)
    (hok : ((bindParty a id).run realm).answer = .ok ()) :
    (∀ q ∈ leader :: members,
        ((bindParty a id).run realm).state.standing q = (realm.standing q).inside id) ∧
      Confined (leader :: members) [] realm ((bindParty a id).run realm).state ∧
      ∀ j, j ≠ id → ((bindParty a id).run realm).state.registry.instances[j]?
        = realm.registry.instances[j]? := by
  have hnone : realm.back a id = [] :=
    List.dropWhile_eq_nil_iff.mpr (bindParty_ok_iff.mp hok)
  obtain ⟨-, hinside, hconfined, hothers⟩ := bindParty_of_admitted sides hnone
  exact ⟨fun q hq => hinside q ((mem_party_iff stands ha).mpr hq),
    hconfined.mono fun q => (mem_party_iff stands ha).mp, hothers⟩

/-- **The list of an instance** that some players have come into: they are on it besides those
who were. -/
theorem Confined.isPlayerBound_of_inside {players : List PlayerId}
    {moves : List (PlayerId × Position)} {realm' : Realm MemoryWorld}
    (h : Confined players moves realm realm')
    (hinside : ∀ q ∈ players, realm'.standing q = (realm.standing q).inside id) :
    realm'.registry.isPlayerBound q id = true
      ↔ realm.registry.isPlayerBound q id = true ∨ q ∈ players := by
  by_cases hq : q ∈ players
  · have hlisted := congrFun (congrArg Standing.listed (hinside q hq)) id
    exact iff_of_true (hlisted.trans (decide_eq_true rfl)) (.inr hq)
  · have hlisted := congrFun (congrArg Standing.listed (h.others q hq)) id
    exact (Bool.eq_iff_iff.mp hlisted).trans (or_iff_left hq).symm

/-- **Whoever of a party asks, the outcome is the same**, in every state in which the two sides
of membership agree. The party is let in for the one just in case it is for the other, and then
registry and world are the same in the end: the instance has the leader and the members besides
those it had, each of them stands inside, and nothing else has changed. -/
theorem bindParty_same_for_all (sides : realm.registry.SidesAgree)
    (stands : realm.world.PartyStands leader members) (ha : a ∈ leader :: members)
    (hb : b ∈ leader :: members) (id : InstanceId) :
    let asked := (bindParty a id).run realm
    let askedByOther := (bindParty b id).run realm
    (asked.answer = .ok () ↔ askedByOther.answer = .ok ()) ∧
    (asked.answer = .ok () →
      asked.state = askedByOther.state ∧
      (∀ q, asked.state.registry.isPlayerBound q id = true
        ↔ realm.registry.isPlayerBound q id = true ∨ q ∈ leader :: members) ∧
      (∀ q ∈ leader :: members, asked.state.standing q = (realm.standing q).inside id) ∧
      Confined (leader :: members) [] realm asked.state ∧
      ∀ j, j ≠ id → asked.state.registry.instances[j]? = realm.registry.instances[j]?) := by
  intro asked askedByOther
  have hsame : asked.answer = .ok () ↔ askedByOther.answer = .ok () := by
    rw [bindParty_ok_iff, bindParty_ok_iff]
    simp only [mem_party_iff stands ha, mem_party_iff stands hb]
  refine ⟨hsame, fun hok => ?_⟩
  obtain ⟨hinside, hconfined, hothers⟩ := bindParty_inside sides stands ha hok
  obtain ⟨hinside', hconfined', -⟩ := bindParty_inside sides stands hb (hsame.mp hok)
  refine ⟨hconfined.unique hconfined' fun q hq => ?_,
    fun q => hconfined.isPlayerBound_of_inside hinside, hinside, hconfined, hothers⟩
  rw [hinside q hq, hinside' q hq]

/-- The first of three forms a party with the second, named twice, and with itself; then the
third forms one alone. Whether the first or the second asks, the two come in and the third does
not. -/
theorem companions_in_whoever_asks :
    ∃ log realm, Run (MemoryWorld.Spares [⟨1⟩, ⟨2⟩, ⟨1⟩, ⟨2⟩])
        ⟨.ofSettings .usual, MemoryWorld.trio.formParty ⟨1⟩ [⟨2⟩, ⟨1⟩, ⟨2⟩]⟩ log realm ∧
      log.map Prod.fst = [.create .plain .epoch] ∧ realm.registry.SidesAgree ∧
      realm.world.PartyStands ⟨1⟩ [⟨2⟩, ⟨1⟩, ⟨2⟩] ∧
      let asked := (bindParty ⟨2⟩ ⟨1⟩).run realm
      let askedByOther := (bindParty ⟨1⟩ ⟨1⟩).run realm
      asked.answer = .ok () ∧ askedByOther.answer = .ok () ∧ asked.state = askedByOther.state ∧
        asked.state.registry.isPlayerBound ⟨1⟩ ⟨1⟩ = true ∧
        asked.state.registry.isPlayerBound ⟨3⟩ ⟨1⟩ = false := by
  have opened : Run (MemoryWorld.Spares [⟨1⟩, ⟨2⟩, ⟨1⟩, ⟨2⟩])
      ⟨.ofSettings .usual, MemoryWorld.trio.formParty ⟨1⟩ [⟨2⟩, ⟨1⟩, ⟨2⟩]⟩ _ _ :=
    .call (.create .plain .epoch) .start fun _ _ => ⟨0, by decide +kernel⟩
  have alone : ∀ w : MemoryWorld,
      MemoryWorld.Spares [⟨1⟩, ⟨2⟩, ⟨1⟩, ⟨2⟩] w (w.formParty ⟨3⟩ []) :=
    fun _ => MemoryWorld.spares_formParty (by decide)
  have run := opened.drift (alone _)
  have sides := run.consistent.tallied.sides
  have stands := run.partyStands (MemoryWorld.partyStands_formParty ..)
  refine ⟨_, _, run, rfl, sides, stands, ?_⟩
  intro asked askedByOther
  have hok : asked.answer = .ok () := by decide +kernel
  have hsecond : (⟨2⟩ : PlayerId) ∈ [(⟨1⟩ : PlayerId), ⟨2⟩, ⟨1⟩, ⟨2⟩] := by decide
  have hfirst : (⟨1⟩ : PlayerId) ∈ [(⟨1⟩ : PlayerId), ⟨2⟩, ⟨1⟩, ⟨2⟩] := by decide
  obtain ⟨hsame, houtcome⟩ := bindParty_same_for_all sides stands hsecond hfirst ⟨1⟩
  obtain ⟨hstate, hbound, -⟩ := houtcome hok
  refine ⟨hok, hsame.mp hok, hstate, (hbound ⟨1⟩).mpr (.inr hfirst), ?_⟩
  rw [Bool.eq_false_iff, Ne, hbound]
  decide +kernel

end Realm

end InstancedZones
