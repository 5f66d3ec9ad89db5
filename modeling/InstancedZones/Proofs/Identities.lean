import InstancedZones.Proofs.Closing
import InstancedZones.Proofs.ResolvedTemplates

/-!
# Identities are handed out in order

A reply that an instance has been opened names its identity, and so does every report
that one has been closed. Read off the answers of a run, these make a ledger: what has
been opened, in order, and what has been closed. As long as the counter has not come
round, the ledger tells all there is to know about the identities of a registry,
whatever the world answers: the `k`-th instance opened has the number `k`, the counter
is one ahead of the instances opened, those are open that have been opened and not
closed, and nothing is closed twice, `Run.identities_in_order`.

So the search for a free identity has nothing to step over, and every call comes back.
-/

namespace InstancedZones

/-- The instances that a reply says have been opened. -/
def Reply.opens : Reply → List InstanceId
  | .created id => [id]
  | _ => []

/-- The instances that a reply reports to have been closed. -/
def Reply.closes : Reply → List InstanceId
  | .closed report => [report.id]
  | .reports value => value.map CloseReport.id
  | _ => []

namespace Run

/-- What was replied to the calls that were not refused. -/
def replies (log : List (Call × Except Refusal Reply)) : List Reply :=
  log.filterMap fun entry => entry.2.toOption

/-- The instances opened in a run, in order. -/
def opened (log : List (Call × Except Refusal Reply)) : List InstanceId :=
  (replies log).flatMap Reply.opens

/-- The instances closed in a run, each as often as there is a report on it. -/
def closed (log : List (Call × Except Refusal Reply)) : List InstanceId :=
  (replies log).flatMap Reply.closes

variable {log : List (Call × Except Refusal Reply)} {c : Call}

theorem replies_append_ok (reply : Reply) :
    replies (log ++ [(c, .ok reply)]) = replies log ++ [reply] := by
  simp [replies, Except.toOption]

theorem replies_append_error (refusal : Refusal) :
    replies (log ++ [(c, .error refusal)]) = replies log := by
  simp [replies, Except.toOption]

@[simp] theorem opened_append_ok (reply : Reply) :
    opened (log ++ [(c, .ok reply)]) = opened log ++ reply.opens := by
  rw [opened, replies_append_ok, List.flatMap_append, List.flatMap_singleton]
  rfl

@[simp] theorem closed_append_ok (reply : Reply) :
    closed (log ++ [(c, .ok reply)]) = closed log ++ reply.closes := by
  rw [closed, replies_append_ok, List.flatMap_append, List.flatMap_singleton]
  rfl

@[simp] theorem opened_append_error (refusal : Refusal) :
    opened (log ++ [(c, .error refusal)]) = opened log := by
  rw [opened, replies_append_error]
  rfl

@[simp] theorem closed_append_error (refusal : Refusal) :
    closed (log ++ [(c, .error refusal)]) = closed log := by
  rw [closed, replies_append_error]
  rfl

end Run

namespace Realm

variable {W : Type} [World W] {realm : Realm W}

/-- **What opening comes to**: a refusal that leaves the registry as it is, or a new
instance under the free identity. -/
theorem create_cases (b : Blueprint) (now : Timestamp) (realm : Realm W) :
    (∃ refusal, ((create b now).run realm).answer = .error refusal ∧
      ((create b now).run realm).state.registry = realm.registry) ∨
    (((create b now).run realm).answer = .ok realm.registry.freeId ∧
      ∃ cache, ((create b now).run realm).state.registry
        = { realm.registry with templates := cache }.add
            (.ofBlueprint realm.registry.freeId b now)) := by
  unfold create
  rw [Action.run_bind, run_readyTemplate]
  cases hanswer : ((realm.registry.templates.ensureLoaded b.mapTemplate).run
      realm.world).answer.1 with
  | error refusal =>
    rw [TemplateCache.cache_of_ensureLoaded_refused hanswer]
    exact .inl ⟨refusal, rfl, rfl⟩
  | ok status =>
    have hfree := realm.registry.firstFree_withTemplates
      ((realm.registry.templates.ensureLoaded b.mapTemplate).run realm.world).answer.2
      realm.registry.instances.size realm.registry.nextId
    refine .inr ⟨congrArg Except.ok hfree,
      ((realm.registry.templates.ensureLoaded b.mapTemplate).run realm.world).answer.2, ?_⟩
    exact congrArg (fun id => Registry.add _ (.ofBlueprint id b now)) hfree

/-- **A refusal to open changes nothing in the registry.** -/
theorem registry_of_create_refused {b : Blueprint} {now : Timestamp} {refusal : Refusal}
    (h : ((create b now).run realm).answer = .error refusal) :
    ((create b now).run realm).state.registry = realm.registry := by
  rcases create_cases b now realm with ⟨-, -, hsame⟩ | ⟨hok, -⟩
  · exact hsame
  · rw [h] at hok
    cases hok

/-- **Players who come and go open and close nothing.** -/
theorem visitsKeep_instances (next : InstanceId) (p : InstanceId → Prop) :
    VisitsKeep fun realm : Realm W =>
      realm.registry.nextId = next ∧ ∀ id, id ∈ realm.registry.instances ↔ p id :=
  .ofRegistry (J := fun r => r.nextId = next ∧ ∀ id, id ∈ r.instances ↔ p id) {
    enroll := fun h _ => ⟨h.1, fun j => Registry.mem_enroll.trans (h.2 j)⟩
    withdraw := fun h _ => ⟨h.1, fun j => Registry.mem_withdraw.trans (h.2 j)⟩
    templates := fun h _ => h }

end Realm

namespace Run

variable {W : Type} {drift : W → W → Prop} {s : TemplateSettings} {w : W}
  {log : List (Call × Except Refusal Reply)} {realm : Realm W}

/-- **The ledger of a run**: what its replies say of the identities, and what the
registry has of them. -/
structure Ledger (log : List (Call × Except Refusal Reply)) (r : Registry) : Prop where
  /-- The instances opened are numbered from one on. -/
  numbers : (opened log).map (·.number.toNat) = List.range' 1 (opened log).length
  /-- The counter is one ahead. -/
  counter : r.nextId.number.toNat = (opened log).length + 1
  /-- Open is what has been opened and not closed. -/
  isOpen : ∀ id, id ∈ r.instances ↔ id ∈ opened log ∧ id ∉ closed log
  /-- Nothing is closed twice. -/
  closedOnce : (closed log).Nodup
  /-- Nothing is closed that has not been opened. -/
  closedOpened : ∀ id ∈ closed log, id ∈ opened log

namespace Ledger

variable {r r' : Registry}

theorem ofSettings (s : TemplateSettings) : Ledger [] (.ofSettings s) where
  numbers := rfl
  counter := rfl
  isOpen id := by simp [opened, replies, Registry.ofSettings]
  closedOnce := List.nodup_nil
  closedOpened := by simp [closed, replies]

/-- What has been opened has a number no larger than there are such instances. -/
theorem number_le (h : Ledger log r) {id : InstanceId} (hid : id ∈ opened log) :
    1 ≤ id.number.toNat ∧ id.number.toNat ≤ (opened log).length := by
  have hmem : id.number.toNat ∈ List.range' 1 (opened log).length :=
    h.numbers ▸ List.mem_map_of_mem hid
  rw [List.mem_range'_1] at hmem
  omega

/-- The counter is ahead of everything that has been opened. -/
theorem nextId_notMem_opened (h : Ledger log r) : r.nextId ∉ opened log := by
  intro hmem
  have hle := (h.number_le hmem).2
  rw [h.counter] at hle
  omega

/-- **The counter itself is free.** -/
theorem nextId_notMem (h : Ledger log r) : r.nextId ∉ r.instances :=
  fun hmem => h.nextId_notMem_opened ((h.isOpen r.nextId).mp hmem).1

theorem freeId_eq (h : Ledger log r) : r.freeId = r.nextId :=
  Registry.freeId_of_notMem h.nextId_notMem

/-! ## What a call writes into the ledger -/

/-- The next instance is entered under the counter, which goes on by one. -/
theorem opening (h : Ledger log r) {log' : List (Call × Except Refusal Reply)} {i : Instance}
    (hid : i.id = r.nextId) (hopened : opened log' = opened log ++ [i.id])
    (hclosed : closed log' = closed log) (hfew : (opened log').length < 4294967295) :
    Ledger log' (r.add i) := by
  have hlength : (opened log').length = (opened log).length + 1 := by
    rw [hopened, List.length_append, List.length_singleton]
  have hnumber : i.id.number.toNat = (opened log).length + 1 := by
    rw [hid, h.counter]
  refine ⟨?_, ?_, fun id => ?_, ?_, fun id hmem => ?_⟩
  · rw [hlength, hopened, List.map_append, h.numbers, List.range'_concat, List.map_singleton,
      hnumber]
    simp [Nat.add_comm]
  · -- short of the largest number, the successor is one more
    show i.id.next.number.toNat = _
    rw [InstanceId.next_number, hnumber, hlength, if_neg (by omega)]
  · rw [Registry.mem_add, h.isOpen id, hopened, hclosed, List.mem_append, List.mem_singleton]
    constructor
    · rintro (rfl | ⟨hmem, hnot⟩)
      · refine ⟨.inr rfl, fun hmem => h.nextId_notMem_opened ?_⟩
        exact hid ▸ h.closedOpened _ hmem
      · exact ⟨.inl hmem, hnot⟩
    · rintro ⟨hmem | rfl, hnot⟩
      · exact .inr ⟨hmem, hnot⟩
      · exact .inl rfl
  · rw [hclosed]
    exact h.closedOnce
  · rw [hopened, List.mem_append]
    exact .inl (h.closedOpened id (hclosed ▸ hmem))

/-- Instances that were open, each once, are entered as closed. -/
theorem closing (h : Ledger log r) {log' : List (Call × Except Refusal Reply)}
    {ids : List InstanceId} (hopened : opened log' = opened log)
    (hclosed : closed log' = closed log ++ ids) (hids : ids.Nodup)
    (hopen : ∀ id ∈ ids, id ∈ r.instances) (hnext : r'.nextId = r.nextId)
    (hmem : ∀ id, id ∈ r'.instances ↔ id ∈ r.instances ∧ id ∉ ids) : Ledger log' r' where
  numbers := by rw [hopened]; exact h.numbers
  counter := by rw [hopened, hnext]; exact h.counter
  isOpen id := by
    rw [hopened, hclosed, hmem, h.isOpen id, List.mem_append]
    tauto
  closedOnce := by
    rw [hclosed, List.nodup_append]
    refine ⟨h.closedOnce, hids, fun id hid id' hid' heq => ?_⟩
    exact ((h.isOpen id').mp (hopen id' hid')).2 (heq ▸ hid)
  closedOpened id hid := by
    rw [hclosed, List.mem_append] at hid
    rw [hopened]
    rcases hid with hid | hid
    · exact h.closedOpened id hid
    · exact ((h.isOpen id).mp (hopen id hid)).1

/-- An answer that opens and closes nothing is no entry, if the call has changed
neither the counter nor what is open. -/
theorem unchanged (h : Ledger log r) {c : Call} {answer : Except Refusal Reply}
    (hreply : ∀ reply, answer = .ok reply → reply.opens = [] ∧ reply.closes = [])
    (hnext : r'.nextId = r.nextId) (hmem : ∀ id, id ∈ r'.instances ↔ id ∈ r.instances) :
    Ledger (log ++ [(c, answer)]) r' := by
  have hopen : ∀ id ∈ ([] : List InstanceId), id ∈ r.instances := by simp
  cases answer with
  | error refusal =>
    refine h.closing (opened_append_error _) ?_ List.nodup_nil hopen hnext (by simpa using hmem)
    rw [closed_append_error, List.append_nil]
  | ok reply =>
    obtain ⟨hopens, hcloses⟩ := hreply reply rfl
    refine h.closing ?_ ?_ List.nodup_nil hopen hnext (by simpa using hmem)
    · rw [opened_append_ok, hopens, List.append_nil]
    · rw [closed_append_ok, hcloses]

end Ledger

/-! ## Every call keeps the ledger -/

/-- Coming and going leave no entry. -/
theorem Ledger.visit {α : Type} (h : Ledger log realm.registry) {c : Call}
    {x : Action (Realm W) (Except Refusal α)} {reply : α → Reply}
    (hkeeps : x.Keeps fun after => after.registry.nextId = realm.registry.nextId ∧
      ∀ id, id ∈ after.registry.instances ↔ id ∈ realm.registry.instances)
    (hreply : ∀ a, (reply a).opens = [] ∧ (reply a).closes = []) :
    Ledger (log ++ [(c, (x.run realm).answer.map reply)]) (x.run realm).state.registry := by
  obtain ⟨hnext, hmem⟩ := hkeeps realm ⟨rfl, fun _ => Iff.rfl⟩
  refine h.unchanged (fun r hr => ?_) hnext hmem
  cases hanswer : (x.run realm).answer with
  | error refusal =>
    rw [hanswer] at hr
    cases hr
  | ok a =>
    rw [hanswer] at hr
    cases hr
    exact hreply a

variable [World W]

theorem Ledger.create (h : Ledger log realm.registry) (b : Blueprint) (now : Timestamp)
    (hfew : (opened
      (log ++ [(.create b now, ((Call.create b now).perform.run realm).answer)])).length
        < 4294967295) :
    Ledger (log ++ [(.create b now, ((Call.create b now).perform.run realm).answer)])
      ((Call.create b now).perform.run realm).state.registry := by
  have hperform : ((Call.create b now).perform.run realm).answer
      = ((Realm.create b now).run realm).answer.map .created := rfl
  rw [hperform] at hfew ⊢
  rcases Realm.create_cases b now realm with ⟨refusal, hanswer, hsame⟩ | ⟨hanswer, cache, hnew⟩
  · rw [hanswer]
    refine h.unchanged (fun reply hreply => by cases hreply) ?_ fun id => ?_
    · exact congrArg Registry.nextId hsame
    · exact iff_of_eq (congrArg (fun r : Registry => id ∈ r.instances) hsame)
  · rw [hanswer] at hfew ⊢
    show Ledger _ ((Realm.create b now).run realm).state.registry
    rw [hnew]
    have hcache : Ledger log { realm.registry with templates := cache } :=
      ⟨h.numbers, h.counter, h.isOpen, h.closedOnce, h.closedOpened⟩
    exact hcache.opening h.freeId_eq (opened_append_ok _)
      ((closed_append_ok _).trans (List.append_nil _)) hfew

theorem Ledger.close (h : Ledger log realm.registry) (consistent : realm.registry.Consistent)
    (id : InstanceId) (reason : String) :
    Ledger (log ++ [(.close id reason, ((Call.close id reason).perform.run realm).answer)])
      ((Call.close id reason).perform.run realm).state.registry := by
  have hperform : ((Call.close id reason).perform.run realm).answer
      = ((Realm.close id reason).run realm).answer.map .closed := rfl
  rw [hperform]
  show Ledger _ ((Realm.close id reason).run realm).state.registry
  by_cases hopen : id ∈ realm.registry.instances
  · obtain ⟨i, hi⟩ := Registry.mem_instances_iff.mp hopen
    obtain ⟨departures, w, events, hclose⟩ := Realm.run_close_of_open hi reason
    have hown := consistent.own_id hi
    rw [hclose]
    have hclosed : closed (log ++ [(.close id reason,
        (Except.ok (CloseReport.ofDepartures i reason departures)).map .closed)])
        = closed log ++ [i.id] := closed_append_ok _
    refine h.closing ((opened_append_ok _).trans (List.append_nil _)) hclosed
      (List.nodup_singleton _) (fun j hj => ?_) rfl fun j => ?_
    · rw [List.mem_singleton.mp hj, hown]
      exact hopen
    · rw [Registry.mem_dissolve, List.mem_singleton, and_comm, ne_comm]
  · rw [Realm.run_close_of_notMem hopen]
    exact h.unchanged (fun reply hreply => by cases hreply) rfl fun _ => Iff.rfl

theorem Ledger.sweep (h : Ledger log realm.registry) (consistent : realm.registry.Consistent)
    (now : Timestamp) :
    Ledger (log ++ [(.sweepExpired now, ((Call.sweepExpired now).perform.run realm).answer)])
      ((Call.sweepExpired now).perform.run realm).state.registry := by
  have hsublist := consistent.tallied.expiredAt_sublist_ids now
  have hcleared := Realm.cleared_sweepExpired consistent.tallied now
  refine h.closing ?_ ?_ (realm.registry.nodup_ids.sublist hsublist)
    (fun id hid => Registry.mem_ids.mp (hsublist.subset hid)) hcleared.counter hcleared.remaining
  · exact (opened_append_ok _).trans (List.append_nil _)
  · rw [← Realm.reported_sweepExpired consistent now]
    exact closed_append_ok _

/-- **Every call keeps the ledger**, as long as the counter does not come round. -/
theorem Ledger.call (h : Ledger log realm.registry) (consistent : realm.registry.Consistent)
    (c : Call) (hfew : (opened (log ++ [(c, (c.perform.run realm).answer)])).length < 4294967295) :
    Ledger (log ++ [(c, (c.perform.run realm).answer)])
      (c.perform.run realm).state.registry := by
  have visits := Realm.visitsKeep_instances (W := W) realm.registry.nextId
    (· ∈ realm.registry.instances)
  cases c with
  | create b now => exact h.create b now hfew
  | bindPlayer player id => exact h.visit (visits.bindPlayer player id) fun _ => ⟨rfl, rfl⟩
  | bindParty leader id => exact h.visit (visits.bindParty leader id) fun _ => ⟨rfl, rfl⟩
  | teleportInto id player => exact h.visit (visits.teleportInto id player) fun _ => ⟨rfl, rfl⟩
  | close id reason => exact h.close consistent id reason
  | playerLeave player =>
    obtain ⟨hnext, hmem⟩ := visits.playerLeave player realm ⟨rfl, fun _ => Iff.rfl⟩
    exact h.unchanged (by rintro _ ⟨⟩; exact ⟨rfl, rfl⟩) hnext hmem
  | sweepExpired now => exact h.sweep consistent now

/-- What has been opened stays on the ledger. -/
theorem length_opened_le (log : List (Call × Except Refusal Reply))
    (entry : Call × Except Refusal Reply) :
    (opened log).length ≤ (opened (log ++ [entry])).length := by
  obtain ⟨c, answer⟩ := entry
  cases answer with
  | error refusal => exact Nat.le_of_eq (by rw [opened_append_error])
  | ok reply =>
    rw [opened_append_ok, List.length_append]
    exact Nat.le_add_right _ _

/-- **The ledger of every run** in which the counter has not come round. -/
theorem ledger (run : Run drift ⟨.ofSettings s, w⟩ log realm)
    (hfew : (opened log).length < 4294967295) : Ledger log realm.registry := by
  induction run with
  | start => exact .ofSettings s
  | call c before returns ih =>
    have hbefore := Nat.lt_of_le_of_lt (length_opened_le _ _) hfew
    exact (ih hbefore).call before.consistent c hfew
  | drift before goes ih => exact ih hfew

/-- **Identities are handed out in order**, in every world and however it goes on, as
long as fewer than `2 ^ 32 - 1` instances have been opened. The `k`-th instance opened
has the number `k`, which is where the counter stood, and the counter is one ahead;
so the numbers rise, none is zero and none comes twice. Exactly those are open that
have been opened and on which there is no report, and there are never two reports on
one. A refusal to open changes nothing in the registry, and every call comes back. -/
theorem identities_in_order (run : Run drift ⟨.ofSettings s, w⟩ log realm)
    (hfew : (opened log).length < 4294967295) :
    (opened log).map (·.number.toNat) = List.range' 1 (opened log).length ∧
    (opened log).Pairwise (·.number < ·.number) ∧ (∀ id ∈ opened log, id.number ≠ 0) ∧
    realm.registry.nextId.number.toNat = (opened log).length + 1 ∧
    (∀ id, id ∈ realm.registry.instances ↔ id ∈ opened log ∧ id ∉ closed log) ∧
    (closed log).Nodup ∧ (∀ id ∈ closed log, id ∈ opened log) ∧
    (∀ b now, (∀ id, ((Realm.create b now).run realm).answer = .ok id →
        id = realm.registry.nextId) ∧
      ∀ refusal, ((Realm.create b now).run realm).answer = .error refusal →
        ((Realm.create b now).run realm).state.registry = realm.registry) ∧
    ∀ c : Call, c.Returns realm := by
  have h := ledger run hfew
  refine ⟨h.numbers, ?_, fun id hid => ?_, h.counter, h.isOpen, h.closedOnce, h.closedOpened,
    fun b now => ⟨fun id hid => ?_, fun refusal => Realm.registry_of_create_refused⟩, fun c => ?_⟩
  · have hrising : ((opened log).map (·.number.toNat)).Pairwise (· < ·) := by
      rw [h.numbers]
      exact List.pairwise_lt_range'
    exact (List.pairwise_map.mp hrising).imp UInt32.lt_iff_toNat_lt.mpr
  · intro hzero
    have hle := (h.number_le hid).1
    rw [hzero] at hle
    exact absurd hle (by decide)
  · rcases Realm.create_cases b now realm with ⟨refusal, hanswer, -⟩ | ⟨hanswer, -⟩
    · rw [hanswer] at hid
      cases hid
    · rw [hanswer] at hid
      exact (Except.ok.inj hid).symm.trans h.freeId_eq
  · cases c with
    | create b now => exact fun _ _ => ⟨0, h.nextId_notMem⟩
    | _ => trivial

/-- Two plain instances are opened and the first is closed; half an hour later a third
is opened, and the sweep closes the second. The third alone is open, and the counter
stands at four. -/
theorem third_in_order :
    ∃ log realm, Run (fun _ _ => True) ⟨.ofSettings .usual, MemoryWorld.trio⟩ log realm ∧
      opened log = [⟨1⟩, ⟨2⟩, ⟨3⟩] ∧ closed log = [⟨1⟩, ⟨2⟩] ∧
      realm.registry.nextId.number.toNat = 4 ∧
      ∀ id, id ∈ realm.registry.instances ↔ id = ⟨3⟩ := by
  let halfAnHour : Timestamp := ⟨1800 * 1000000000, by omega, by omega⟩
  have two := (opened_trio fun _ _ => True).call (.create .plain .epoch)
    fun _ _ => ⟨0, by decide +kernel⟩
  have three := (two.call (.close ⟨1⟩ "done") trivial).call (.create .plain halfAnHour)
    fun _ _ => ⟨0, by decide +kernel⟩
  obtain ⟨log, realm, run, hopened, hclosed⟩ :
      ∃ log realm, Run (fun _ _ => True) ⟨.ofSettings .usual, MemoryWorld.trio⟩ log realm ∧
        opened log = [⟨1⟩, ⟨2⟩, ⟨3⟩] ∧ closed log = [⟨1⟩, ⟨2⟩] :=
    ⟨_, _, three.call (.sweepExpired halfAnHour) trivial, by decide +kernel, by decide +kernel⟩
  obtain ⟨-, -, -, hcounter, hopen, -⟩ := identities_in_order run (by rw [hopened]; decide)
  rw [hopened] at hcounter
  refine ⟨log, realm, run, hopened, hclosed, hcounter, fun id => ?_⟩
  rw [hopen id, hopened, hclosed]
  constructor
  · simp only [List.mem_cons, List.not_mem_nil, or_false, not_or]
    tauto
  · rintro rfl
    decide

end Run

end InstancedZones
