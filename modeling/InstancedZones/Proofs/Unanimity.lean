import InstancedZones.Proofs.Party
import InstancedZones.Proofs.ResolvedTemplates
import InstancedZones.Proofs.Standing

/-!
# A party comes in just in case each member would come in alone

Whether a member of a party is let in is decided when those before have come in already,
but it comes out as if the member had asked alone and at the start. So a party is let in
exactly if each of its members would be, and then each of them stands as if the others
had not come along: inside, and in no other instance.

A party that is refused is refused for the first member who would be declined alone. Those
before have come in and left again. They are in no instance afterwards, and none is noted
for them, even if they had been in the instance before the party asked. Nothing else has
changed: the member who is declined and those after have not been touched. This is
`Realm.party_unanimous`, which asks no more of the registry than that the two sides of
membership agree.
-/

namespace InstancedZones

namespace Realm

variable {realm realm' : Realm MemoryWorld} {leader player q : PlayerId} {id j : InstanceId}
  {players : List PlayerId} {refusal : Refusal}

/-! ## Players who have come in, and players who have left again -/

/-- **Players who are admitted stand inside once they have come in**, and what has happened
is confined to them. -/
theorem confined_foldl_enter (sides : realm.registry.SidesAgree) (hnodup : players.Nodup)
    (hadmits : ∀ player ∈ players, realm.admits id player = true) :
    Confined players [] realm (players.foldl (enter · · id) realm) ∧
      ∀ q ∈ players, (players.foldl (enter · · id) realm).standing q
        = (realm.standing q).inside id := by
  have hmoves : (players.flatMap fun player => (Step.enter id).moves player) = [] :=
    List.flatMap_eq_nil_iff.mpr fun _ _ => rfl
  refine ⟨hmoves ▸ (Step.enter id).confined_foldl_apply players realm, fun q hq => ?_⟩
  rw [← Step.after_enter_of_admitted sides (admits_iff.mp (hadmits q hq))]
  exact (Step.enter id).standing_foldl_apply hnodup hq realm

/-- **Players who have come in and leave again stand outside**, and what has happened is
confined to them. -/
theorem confined_foldl_leave (sides : realm.registry.SidesAgree) (hnodup : players.Nodup)
    (hadmits : ∀ player ∈ players, realm.admits id player = true) :
    Confined players [] realm (players.foldl leave (players.foldl (enter · · id) realm)) ∧
      ∀ q ∈ players, (players.foldl leave (players.foldl (enter · · id) realm)).standing q
        = (realm.standing q).outside := by
  obtain ⟨hentered, hinside⟩ := confined_foldl_enter sides hnodup hadmits
  have hmoves : (players.flatMap fun player => Step.leave.moves player) = [] :=
    List.flatMap_eq_nil_iff.mpr fun _ _ => rfl
  have hleft := Step.leave.confined_foldl_apply players (players.foldl (enter · · id) realm)
  rw [hmoves] at hleft
  refine ⟨(hentered.trans hleft).mono (by simp), fun q hq => ?_⟩
  refine (Step.leave.standing_foldl_apply hnodup hq _).trans ?_
  rw [hinside q hq, Step.after_leave_inside]

/-! ## The party -/

/-- **The other instances are as they were** if what has happened is confined to players who
were admitted and are in none of them. -/
theorem Confined.getElem?_instances_of_ne (sides : realm.registry.SidesAgree)
    {moves : List (PlayerId × Position)} (h : Confined players moves realm realm')
    (hadmits : ∀ q ∈ players, realm.admits id q = true)
    (hout : ∀ q ∈ players, ∀ j, j ≠ id → realm'.registry.isPlayerBound q j = false)
    (hj : j ≠ id) : realm'.registry.instances[j]? = realm.registry.instances[j]? := by
  refine h.getElem?_instances fun q hq => ?_
  rw [hout q hq j hj, Eq.comm, Bool.eq_false_iff]
  intro hbound
  exact hj (eq_of_isPlayerBound_of_admitted sides (admits_iff.mp (hadmits q hq)) hbound).symm

/-- **A party of which all are admitted**: each member stands inside, and nothing else has
changed. -/
theorem bindParty_of_admitted (sides : realm.registry.SidesAgree)
    (h : realm.back leader id = []) :
    ((bindParty leader id).run realm).answer = .ok () ∧
      (∀ q ∈ realm.party leader, ((bindParty leader id).run realm).state.standing q
        = (realm.standing q).inside id) ∧
      Confined (realm.party leader) [] realm ((bindParty leader id).run realm).state ∧
      ∀ j, j ≠ id → ((bindParty leader id).run realm).state.registry.instances[j]?
        = realm.registry.instances[j]? := by
  obtain ⟨hanswer, hstate⟩ := run_bindParty_of_admits h
  have hadmits := admits_of_mem_front realm leader id
  rw [front_eq_party h] at hadmits
  obtain ⟨hconfined, hinside⟩ := confined_foldl_enter sides nodup_party hadmits
  rw [← hstate] at hconfined hinside
  refine ⟨hanswer, hinside, hconfined, fun j => ?_⟩
  refine hconfined.getElem?_instances_of_ne sides hadmits fun q hq j hj => ?_
  exact (congrFun (congrArg Standing.listed (hinside q hq)) j).trans (decide_eq_false hj.symm)

/-- **A party of which someone is declined**: those before the first stand outside, and
nothing else has changed. -/
theorem bindParty_of_declined (sides : realm.registry.SidesAgree) {rest : List PlayerId}
    (h : realm.back leader id = player :: rest) :
    ∃ refusal, realm.verdict player id = .error refusal ∧
      ((bindParty leader id).run realm).answer = .error refusal ∧
      (∀ q ∈ realm.front leader id, ((bindParty leader id).run realm).state.standing q
        = (realm.standing q).outside) ∧
      Confined (realm.front leader id) [] realm ((bindParty leader id).run realm).state ∧
      ∀ j, j ≠ id → ((bindParty leader id).run realm).state.registry.instances[j]?
        = realm.registry.instances[j]? := by
  obtain ⟨refusal, hdeclined, hanswer, hstate⟩ := run_bindParty_of_declined h
  have hadmits := admits_of_mem_front realm leader id
  obtain ⟨hconfined, houtside⟩ := confined_foldl_leave sides (nodup_front realm leader id) hadmits
  rw [← hstate] at hconfined houtside
  refine ⟨refusal, hdeclined, hanswer, houtside, hconfined, fun j => ?_⟩
  refine hconfined.getElem?_instances_of_ne sides hadmits fun q hq j hj => ?_
  exact congrFun (congrArg Standing.listed (houtside q hq)) j

/-- **A party is let in exactly if each of its members would be let in alone**, and the
first who would not decides otherwise. If it is let in, each member stands inside, in no
other instance and noted there. If it is refused, it is with the refusal that the first
member who is declined alone gets; those before stand outside, whatever they were in
before, and none is noted for them, while that member and those after stand as they did.
Nothing else has changed, neither for other players nor for other instances. -/
theorem party_unanimous (sides : realm.registry.SidesAgree) (leader : PlayerId)
    (id : InstanceId) :
    let party := realm.party leader
    let alone := fun player => ((bindPlayer player id).run realm).answer
    let together := (bindParty leader id).run realm
    (together.answer = .ok () ↔ ∀ player ∈ party, alone player = .ok ()) ∧
    (together.answer = .ok () →
      (∀ q, together.state.registry.isPlayerBound q id = true
        ↔ realm.registry.isPlayerBound q id = true ∨ q ∈ party) ∧
      (∀ q ∈ party, together.state.standing q = (realm.standing q).inside id ∧
        together.state.world.instanceOf q = some id) ∧
      Confined party [] realm together.state ∧
      ∀ j, j ≠ id →
        together.state.registry.instances[j]? = realm.registry.instances[j]?) ∧
    ∀ refusal, together.answer = .error refusal →
      ∃ front player back, party = front ++ player :: back ∧
        (∀ q ∈ front, alone q = .ok ()) ∧ alone player = .error refusal ∧
        (∀ q ∈ front, together.state.standing q = (realm.standing q).outside ∧
          together.state.world.instanceOf q = none) ∧
        (∀ q ∈ player :: back, together.state.standing q = realm.standing q) ∧
        Confined front [] realm together.state ∧
        ∀ j, j ≠ id →
          together.state.registry.instances[j]? = realm.registry.instances[j]? := by
  intro party alone together
  have halone : ∀ q, alone q = realm.verdict q id := fun q => answer_bindPlayer q id realm
  simp only [halone]
  cases hback : realm.back leader id with
  | nil =>
    obtain ⟨hanswer, hinside, hconfined, hothers⟩ := bindParty_of_admitted sides hback
    have hok : ∀ q ∈ party, realm.verdict q id = .ok () := fun q hq =>
      admits_iff.mp (admits_of_mem_front realm leader id q (front_eq_party hback ▸ hq))
    refine ⟨iff_of_true hanswer hok, fun _ => ⟨fun q => ?_, fun q hq => ?_, hconfined, hothers⟩,
      fun refusal hrefused => ?_⟩
    · by_cases hq : q ∈ party
      · have hlisted := congrFun (congrArg Standing.listed (hinside q hq)) id
        exact iff_of_true (hlisted.trans (decide_eq_true rfl)) (.inr hq)
      · have hlisted := congrFun (congrArg Standing.listed (hconfined.others q hq)) id
        exact (Bool.eq_iff_iff.mp hlisted).trans (or_iff_left hq).symm
    · exact ⟨hinside q hq, instanceOf_of_inside (hok q hq) (hinside q hq)⟩
    · cases hanswer.symm.trans hrefused
  | cons player back =>
    obtain ⟨refusal, hdeclined, hanswer, houtside, hconfined, hothers⟩ :=
      bindParty_of_declined sides hback
    have hsplit : party = realm.front leader id ++ player :: back := by
      rw [← hback, front_append_back]
    have hmem : player ∈ party := hsplit ▸ List.mem_append_right _ List.mem_cons_self
    refine ⟨iff_of_false (fun hok => ?_) fun hall => ?_, fun hok => ?_, fun refusal' hrefused => ?_⟩
    · cases hanswer.symm.trans hok
    · cases hdeclined.symm.trans (hall player hmem)
    · cases hanswer.symm.trans hok
    · obtain rfl := Except.error.inj (hanswer.symm.trans hrefused)
      refine ⟨realm.front leader id, player, back, hsplit, fun q hq => ?_, hdeclined,
        fun q hq => ⟨houtside q hq, instanceOf_of_outside (houtside q hq)⟩, fun q hq => ?_,
        hconfined, hothers⟩
      · exact admits_iff.mp (admits_of_mem_front realm leader id q hq)
      · exact hconfined.others q (notMem_front_of_mem_back (hback ▸ hq))

/-- The first of three is in the instance already and the second has lost the connection: the
party is refused, and the first is out of the instance and not noted there any more. -/
theorem refused_trio_first_outside :
    ∃ log realm, Run MemoryWorld.Change ⟨.ofSettings .usual, MemoryWorld.trio⟩ log realm ∧
      log.map Prod.fst = [.create .plain .epoch, .bindPlayer ⟨1⟩ ⟨1⟩] ∧
      realm.registry.SidesAgree ∧ realm.registry.isPlayerBound ⟨1⟩ ⟨1⟩ = true ∧
      let together := (bindParty ⟨1⟩ ⟨1⟩).run realm
      together.answer = .error (.invalidPlayer ⟨2⟩) ∧
        together.state.standing ⟨1⟩ = (realm.standing ⟨1⟩).outside ∧
        together.state.world.instanceOf ⟨1⟩ = none := by
  have entered := (Run.opened_trio MemoryWorld.Change).call (.bindPlayer ⟨1⟩ ⟨1⟩) trivial
  have run := entered.drift (.setOnline ⟨2⟩ false)
  have sides := run.consistent.tallied.sides
  obtain ⟨-, -, hrefused⟩ := party_unanimous sides ⟨1⟩ ⟨1⟩
  obtain ⟨front, player, back, hparty, -, hdeclined, hfront, -⟩ := hrefused (.invalidPlayer ⟨2⟩) rfl
  refine ⟨_, _, run, rfl, sides, by decide +kernel, rfl, hfront ⟨1⟩ ?_⟩
  -- the first of the party is not the one who is declined
  cases front with
  | nil =>
    obtain rfl : (⟨1⟩ : PlayerId) = player := (List.cons.inj hparty).1
    cases hdeclined
  | cons first rest =>
    obtain rfl : (⟨1⟩ : PlayerId) = first := (List.cons.inj hparty).1
    exact List.mem_cons_self

end Realm

end InstancedZones
