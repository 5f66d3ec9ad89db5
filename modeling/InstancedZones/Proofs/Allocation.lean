import InstancedZones.Proofs.Identities

/-!
# The identity of a new instance

Identities go round: from any of them on, the next comes, and after the largest comes one
again. `InstanceId.ahead` says in numbers which is how many places ahead, and for the first
4294967295 places no two are the same.

The search for a free identity goes round from the counter and stops at the first identity
that no open instance has. `Registry.Finds` is this search, with no bound to how far it may
go; what the registry computes is bounded, and comes to the same wherever the search stops.
It does stop as long as not all identities are taken, since among one more place than there
are open instances one is free. So an instance that is opened is given the first identity
from the counter on that is free, and nothing that is open is lost,
`Realm.create_takes_first_free`.
-/

namespace InstancedZones

namespace InstanceId

variable {id : InstanceId}

/-- **The identity so many places ahead**, going round from the largest to one. -/
def ahead (id : InstanceId) (places : Nat) : InstanceId :=
  ⟨UInt32.ofNat ((id.number.toNat - 1 + places) % 4294967295 + 1)⟩

theorem number_ahead (id : InstanceId) (places : Nat) :
    (id.ahead places).number.toNat = (id.number.toNat - 1 + places) % 4294967295 + 1 :=
  UInt32.toNat_ofNat_of_lt' (by
    have hlt := Nat.mod_lt (id.number.toNat - 1 + places) (y := 4294967295) (by decide)
    show _ < 4294967296
    omega)

/-- Identities are told apart by their numbers. -/
theorem ext_number {id' : InstanceId} (h : id.number.toNat = id'.number.toNat) : id = id' := by
  cases id
  cases id'
  exact congrArg mk (UInt32.toNat_inj.mp h)

/-- No identity ahead is zero. -/
theorem ahead_ne_zero (id : InstanceId) (places : Nat) : (id.ahead places).number ≠ 0 := by
  intro h
  have hnumber := number_ahead id places
  rw [h] at hnumber
  exact Nat.succ_ne_zero _ hnumber.symm

/-- No place ahead is the identity itself. -/
theorem ahead_zero (h : id.number ≠ 0) : id.ahead 0 = id := by
  apply ext_number
  have hpos : id.number.toNat ≠ 0 := fun hzero => h (UInt32.toNat_inj.mp hzero)
  have hlt := id.number.toNat_lt
  rw [number_ahead]
  omega

/-- **One place further is the next identity.** -/
theorem next_ahead (id : InstanceId) (places : Nat) :
    (id.ahead places).next = id.ahead (places + 1) := by
  apply ext_number
  rw [next_number, number_ahead, number_ahead]
  split <;> omega

/-- **Going from one identity to the next** leads as many places ahead as steps are taken. -/
theorem iterate_next (h : id.number ≠ 0) (places : Nat) :
    InstanceId.next^[places] id = id.ahead places := by
  induction places with
  | zero => exact (ahead_zero h).symm
  | succ places ih => rw [Function.iterate_succ_apply', ih, next_ahead]

/-- **No two places are the same** that are less than a round apart. -/
theorem ahead_ne_ahead {a b : Nat} (hlt : a < b) (hround : b < a + 4294967295) :
    id.ahead a ≠ id.ahead b := by
  intro heq
  have hnumber := congrArg (fun id => id.number.toNat) heq
  simp only [number_ahead] at hnumber
  omega

end InstanceId

namespace Registry

variable {r : Registry} {id : InstanceId}

/-- **The search for a free identity**, from the first identity to the second: an identity
that is free is found, and one that is taken is stepped over. -/
inductive Finds (r : Registry) : InstanceId → InstanceId → Prop
  /-- The identity is free. -/
  | here {id : InstanceId} (free : id ∉ r.instances) : Finds r id id
  /-- The identity is taken, and the search goes on at the next. -/
  | over {id found : InstanceId} (taken : id ∈ r.instances) (rest : Finds r id.next found) :
      Finds r id found

/-- The search steps over identities that are taken, up to one that is free. -/
theorem finds_iterate {k : Nat} (htaken : ∀ j < k, InstanceId.next^[j] id ∈ r.instances)
    (hfree : InstanceId.next^[k] id ∉ r.instances) : r.Finds id (InstanceId.next^[k] id) := by
  induction k generalizing id with
  | zero => exact .here hfree
  | succ k ih =>
    exact .over (htaken 0 k.succ_pos) (ih (fun j hj => htaken (j + 1) (Nat.succ_lt_succ hj)) hfree)

/-- **What the registry computes is what the search finds**, whenever it stops: so many places
ahead of the counter, with all places before taken. -/
theorem freeId_eq_iterate (h : r.HasFreeId) :
    ∃ k ≤ r.instances.size, r.freeId = InstanceId.next^[k] r.nextId ∧ r.freeId ∉ r.instances ∧
      (∀ j < k, InstanceId.next^[j] r.nextId ∈ r.instances) ∧ r.Finds r.nextId r.freeId := by
  obtain ⟨k, hk, hfound, htaken, -⟩ := r.firstFree_eq_iterate r.instances.size r.nextId
  have hfree := freeId_notMem h
  refine ⟨k, hk, hfound, hfree, htaken, ?_⟩
  rw [freeId, hfound] at hfree ⊢
  exact finds_iterate htaken hfree

/-- **As long as not all identities are taken**, the search stops. -/
theorem hasFreeId_of_size_lt (hnext : r.nextId.number ≠ 0)
    (hroom : r.instances.size < 4294967295) : r.HasFreeId := by
  by_contra hnone
  -- a search that does not stop comes back to where it has been within as many places as there
  -- are instances, which is less than a round
  have htaken : ∀ j ≤ r.instances.size, InstanceId.next^[j] r.nextId ∈ r.instances :=
    fun j _ => not_not.mp fun hfree => hnone ⟨j, hfree⟩
  obtain ⟨a, b, hab, hb, hcycle⟩ := exists_cycle htaken
  rw [InstanceId.iterate_next hnext, InstanceId.iterate_next hnext] at hcycle
  exact InstanceId.ahead_ne_ahead hab (by omega) hcycle

end Registry

namespace Realm

variable {W : Type} [World W] {realm : Realm W}

/-- **A template that is ready lets an instance be opened.** -/
theorem registry_of_create_ready {b : Blueprint} {status : TemplateStatus} (now : Timestamp)
    (ready : ((readyTemplate b.mapTemplate).run realm).answer = .ok status) :
    ((create b now).run realm).answer = .ok realm.registry.freeId ∧
      ∃ cache, ((create b now).run realm).state.registry
        = { realm.registry with templates := cache }.add
            (.ofBlueprint realm.registry.freeId b now) := by
  rcases create_cases b now realm with ⟨refusal, hrefused, -⟩ | hopened
  · have hready : ((create b now).run realm).answer ≠ .error refusal := by
      rw [create, Action.run_bind, ready]
      simp
    exact absurd hrefused hready
  · exact hopened

/-- **A new instance is given the first free identity**, from the counter on and going round, in
every world and however far the counter has come, as long as not all identities are taken. The
search for it stops; it is not zero; the instance is open under it and all others are as they
were; and the counter is one place ahead of it. -/
theorem create_takes_first_free (hnext : realm.registry.nextId.number ≠ 0)
    (hroom : realm.registry.instances.size < 4294967295) (b : Blueprint) (now : Timestamp) :
    let start := realm.registry.nextId
    let opening := (create b now).run realm
    ∃ places < 4294967295, ∃ id, id = start.ahead places ∧ realm.registry.Finds start id ∧
      id ∉ realm.registry.instances ∧ id.number ≠ 0 ∧
      (∀ fewer < places, start.ahead fewer ∈ realm.registry.instances) ∧
      ∀ status, ((readyTemplate b.mapTemplate).run realm).answer = .ok status →
        opening.answer = .ok id ∧
        (∀ j, opening.state.registry.instances[j]?
          = if j = id then some (.ofBlueprint id b now) else realm.registry.instances[j]?) ∧
        opening.state.registry.instances.size = realm.registry.instances.size + 1 ∧
        opening.state.registry.members = realm.registry.members ∧
        opening.state.registry.nextId = id.ahead 1 ∧
        opening.state.registry.nextId.number ≠ 0 := by
  intro start opening
  obtain ⟨places, hplaces, hahead, hfree, htaken, hfinds⟩ :=
    Registry.freeId_eq_iterate (Registry.hasFreeId_of_size_lt hnext hroom)
  simp only [InstanceId.iterate_next hnext] at hahead htaken
  have hzero : realm.registry.freeId.number ≠ 0 := hahead ▸ InstanceId.ahead_ne_zero _ _
  refine ⟨places, by omega, realm.registry.freeId, hahead, hfinds, hfree, hzero, htaken,
    fun status ready => ?_⟩
  obtain ⟨hanswer, cache, hregistry⟩ := registry_of_create_ready now ready
  have hcounter : opening.state.registry.nextId = realm.registry.freeId.ahead 1 := by
    rw [hregistry, ← InstanceId.next_ahead, InstanceId.ahead_zero hzero]
    rfl
  refine ⟨hanswer, fun j => ?_, ?_, ?_, hcounter, hcounter ▸ InstanceId.ahead_ne_zero _ _⟩
  · rw [hregistry, Registry.getElem?_add]
    simp only [eq_comm (a := j)]
    rfl
  · rw [hregistry]
    exact Std.ExtTreeMap.size_insert.trans (if_neg hfree)
  · rw [hregistry]
    rfl

/-- The counter stands at the largest identity, which is taken, as is the first: the search goes
round and finds the second. -/
theorem create_past_wrap :
    let registry : Registry := { ((Registry.ofSettings .usual).add
      (.ofBlueprint ⟨1⟩ .plain .epoch)).add (.ofBlueprint ⟨4294967295⟩ .plain .epoch) with
        nextId := ⟨4294967295⟩ }
    let realm : Realm MemoryWorld := ⟨registry, .empty⟩
    let opening := (create .plain .epoch).run realm
    registry.nextId.number ≠ 0 ∧ registry.instances.size < 4294967295 ∧
      ((readyTemplate Blueprint.plain.mapTemplate).run realm).answer = .ok .noTemplate ∧
      registry.Finds ⟨4294967295⟩ ⟨2⟩ ∧ opening.answer = .ok ⟨2⟩ ∧
      opening.state.registry.instances.size = 3 ∧ opening.state.registry.nextId = ⟨3⟩ := by
  intro registry realm opening
  have hnext : realm.registry.nextId.number ≠ 0 := by decide
  have hroom : realm.registry.instances.size < 4294967295 := by decide +kernel
  have ready : ((readyTemplate Blueprint.plain.mapTemplate).run realm).answer
      = .ok .noTemplate := rfl
  have htwo : opening.answer = .ok ⟨2⟩ := by decide +kernel
  obtain ⟨places, -, id, -, hfinds, -, -, -, hopened⟩ :=
    create_takes_first_free hnext hroom .plain .epoch
  obtain ⟨hanswer, -, hsize, -, hcounter, -⟩ := hopened _ ready
  obtain rfl := Except.ok.inj (htwo.symm.trans hanswer)
  refine ⟨hnext, hroom, ready, hfinds, hanswer, hsize.trans ?_, hcounter.trans ?_⟩
  · decide +kernel
  · decide

end Realm

end InstancedZones
