import Mathlib.Data.List.TakeWhile
import InstancedZones.Proofs.Collections
import InstancedZones.Proofs.Entering

/-!
# A party comes in together

The members of a party are let in one after the other, and whether one is let in
does not depend on those before. So what becomes of a party is told by the
verdicts at the start. If all members are admitted, all come in; otherwise those
before the first who is declined come in and leave again, and the party is
refused.

Those before the first who is declined are then out of the instance, even if they
were in it before. The others have not been looked at: a member who was in the
instance already stays in it, although the party is refused. So a refused party
has nobody in the instance just in case none of the others was in it at the
start, `Run.refused_party_absent_iff`.
-/

namespace InstancedZones

namespace Realm

variable {realm : Realm MemoryWorld} {leader player q : PlayerId} {id j : InstanceId}
  {players : List PlayerId} {refusal : Refusal}

/-- A player's party: the player first, then the others in the order of the
party, each once. -/
def party (realm : Realm MemoryWorld) (leader : PlayerId) : List PlayerId :=
  (leader :: (realm.world.parties[leader]?).getD []).eraseDups

/-- Whether a player may come into an instance, as things stand. -/
def admits (realm : Realm MemoryWorld) (id : InstanceId) (player : PlayerId) : Bool :=
  (realm.verdict player id).isOk

theorem admits_iff : realm.admits id player = true ↔ realm.verdict player id = .ok () := by
  unfold admits
  cases realm.verdict player id <;> simp [Except.isOk, Except.toBool]

/-- The members of a party before the first who is declined. -/
def front (realm : Realm MemoryWorld) (leader : PlayerId) (id : InstanceId) : List PlayerId :=
  (realm.party leader).takeWhile (realm.admits id)

/-- The first member of a party who is declined, and those after. -/
def back (realm : Realm MemoryWorld) (leader : PlayerId) (id : InstanceId) : List PlayerId :=
  (realm.party leader).dropWhile (realm.admits id)

theorem front_append_back (realm : Realm MemoryWorld) (leader : PlayerId) (id : InstanceId) :
    realm.front leader id ++ realm.back leader id = realm.party leader :=
  List.takeWhile_append_dropWhile

/-- If nobody is declined, all are before the first who is. -/
theorem front_eq_party (h : realm.back leader id = []) :
    realm.front leader id = realm.party leader := by
  rw [← front_append_back realm leader id, h, List.append_nil]

/-- Nobody is in a party twice. -/
theorem nodup_party : (realm.party leader).Nodup := nodup_eraseDups _

theorem nodup_front (realm : Realm MemoryWorld) (leader : PlayerId) (id : InstanceId) :
    (realm.front leader id).Nodup :=
  nodup_party.sublist (List.takeWhile_sublist _)

theorem admits_of_mem_front (realm : Realm MemoryWorld) (leader : PlayerId) (id : InstanceId) :
    ∀ player ∈ realm.front leader id, realm.admits id player = true :=
  fun _ => List.mem_takeWhile_imp

/-- Nobody is both before and after the first who is declined. -/
theorem notMem_front_of_mem_back (h : q ∈ realm.back leader id) : q ∉ realm.front leader id := by
  have hnodup : (realm.front leader id ++ realm.back leader id).Nodup := by
    rw [front_append_back]
    exact nodup_party
  exact fun hfront => (List.nodup_append.mp hnodup).2.2 q hfront q h rfl

/-- Those who are admitted at the start still are when the first has come in. -/
theorem admits_enter_of_cons (hplayer : player ∉ players)
    (hadmits : ∀ q ∈ player :: players, realm.admits id q = true) :
    ∀ q ∈ players, (realm.enter player id).admits id q = true := by
  intro q hq
  rw [admits, verdict_enter_ne (ne_of_mem_of_not_mem hq hplayer).symm]
  exact hadmits q (List.mem_cons_of_mem _ hq)

/-! ## Several players come in or leave -/

/-- **The verdict on a player is the same after others have come in.** -/
theorem verdict_foldl_enter (h : q ∉ players) :
    (players.foldl (enter · · id) realm).verdict q j = realm.verdict q j := by
  induction players generalizing realm with
  | nil => rfl
  | cons player rest ih =>
    rw [List.mem_cons, not_or] at h
    rw [List.foldl_cons, ih h.2, verdict_enter_ne (Ne.symm h.1)]

/-- **Players who are admitted come in**, each besides those who are in
already. -/
theorem foldl_enter (h : realm.registry.Consistent) (hnodup : players.Nodup)
    (hadmits : ∀ player ∈ players, realm.admits id player = true) :
    (players.foldl (enter · · id) realm).registry.Consistent ∧
      ∀ q j, (players.foldl (enter · · id) realm).registry.isPlayerBound q j = true
        ↔ realm.registry.isPlayerBound q j = true ∨ (q ∈ players ∧ id = j) := by
  induction players generalizing realm with
  | nil => exact ⟨h, by simp⟩
  | cons player rest ih =>
    obtain ⟨hplayer, hrest⟩ := List.nodup_cons.mp hnodup
    have hok := admits_iff.mp (hadmits player List.mem_cons_self)
    obtain ⟨hconsistent, hbound⟩ := ih (consistent_enter h hok) hrest
      (admits_enter_of_cons hplayer hadmits)
    refine ⟨hconsistent, fun q j => ?_⟩
    rw [List.foldl_cons, hbound, isPlayerBound_enter hok, List.mem_cons, or_assoc, ← or_and_right,
      eq_comm (a := player)]

/-- **Players who leave are in no instance any more.** -/
theorem foldl_leave (h : realm.registry.Consistent) :
    (players.foldl leave realm).registry.Consistent ∧
      ∀ q j, (players.foldl leave realm).registry.isPlayerBound q j = true
        ↔ realm.registry.isPlayerBound q j = true ∧ q ∉ players := by
  induction players generalizing realm with
  | nil => exact ⟨h, by simp⟩
  | cons player rest ih =>
    obtain ⟨hconsistent, hbound⟩ := ih (consistent_leave h player)
    refine ⟨hconsistent, fun q j => ?_⟩
    rw [List.foldl_cons, hbound, isPlayerBound_leave h, List.mem_cons, not_or, and_assoc,
      ne_comm]

/-- Players who come in and leave again are out, and the others are where they
were. -/
theorem isPlayerBound_foldl_leave_enter (h : realm.registry.Consistent) (hnodup : players.Nodup)
    (hadmits : ∀ player ∈ players, realm.admits id player = true) :
    (players.foldl leave (players.foldl (enter · · id) realm)).registry.isPlayerBound q j = true
      ↔ realm.registry.isPlayerBound q j = true ∧ q ∉ players := by
  obtain ⟨hconsistent, hentered⟩ := foldl_enter h hnodup hadmits
  rw [(foldl_leave hconsistent).2, hentered]
  tauto

/-! ## What becomes of a party -/

theorem run_release_state (players : List PlayerId) (realm : Realm MemoryWorld) :
    ((release players).run realm).state = players.foldl leave realm := by
  induction players generalizing realm with
  | nil => rfl
  | cons player rest ih => rw [release, Action.run_bind, ih, run_playerLeave_state, List.foldl_cons]

/-- **Those before the first who is declined come in**, and then the others have
their turn. -/
theorem run_bindAll_append (leader : PlayerId) (bound rest : List PlayerId) (hnodup : players.Nodup)
    (hadmits : ∀ player ∈ players, realm.admits id player = true) :
    ((bindAll leader id bound (players ++ rest)).run realm).answer
        = ((bindAll leader id (bound ++ players) rest).run
            (players.foldl (enter · · id) realm)).answer ∧
      ((bindAll leader id bound (players ++ rest)).run realm).state
        = ((bindAll leader id (bound ++ players) rest).run
            (players.foldl (enter · · id) realm)).state := by
  induction players generalizing bound realm with
  | nil => simp
  | cons player players ih =>
    obtain ⟨hplayer, hplayers⟩ := List.nodup_cons.mp hnodup
    have hok := admits_iff.mp (hadmits player List.mem_cons_self)
    rw [List.cons_append, List.foldl_cons]
    simp only [bindAll, Action.run_bind, run_bindPlayer_of_ok hok]
    rw [List.append_cons bound player players]
    exact ih (bound ++ [player]) hplayers (admits_enter_of_cons hplayer hadmits)

/-- **The first who is declined turns the party away**: those who have come in
leave again. -/
theorem run_bindAll_of_error (leader : PlayerId) (bound rest : List PlayerId)
    (hdeclined : realm.verdict player id = .error refusal) :
    ((bindAll leader id bound (player :: rest)).run realm).answer = .error refusal ∧
      ((bindAll leader id bound (player :: rest)).run realm).state
        = bound.foldl leave realm := by
  simp [bindAll, run_bindPlayer_of_error hdeclined, run_release_state]

/-- A player without a party is a party of one. -/
theorem run_bindParty (leader : PlayerId) (id : InstanceId) (realm : Realm MemoryWorld) :
    ((bindParty leader id).run realm).answer
        = ((bindAll leader id [] (realm.party leader)).run realm).answer ∧
      ((bindParty leader id).run realm).state
        = ((bindAll leader id [] (realm.party leader)).run realm).state := by
  simp only [bindParty, Action.run_bind, run_onWorld, MemoryWorld.run_partyMembers, party]
  cases hparty : realm.world.parties[leader]? with
  | some members => exact ⟨rfl, rfl⟩
  | none =>
    simp only [Option.getD_none, List.eraseDups_cons, List.filter_nil, List.eraseDups_nil]
    cases hverdict : realm.verdict leader id with
    | ok => simp [bindAll, run_bindPlayer_of_ok hverdict]
    | error refusal => simp [bindAll, run_bindPlayer_of_error hverdict, release]

/-- **A party of which all are admitted comes in.** -/
theorem run_bindParty_of_admits (h : realm.back leader id = []) :
    ((bindParty leader id).run realm).answer = .ok () ∧
      ((bindParty leader id).run realm).state
        = (realm.party leader).foldl (enter · · id) realm := by
  obtain ⟨hanswer, hstate⟩ := run_bindAll_append leader [] []
    (nodup_front realm leader id)
    (admits_of_mem_front realm leader id)
  rw [List.append_nil, front_eq_party h] at hanswer hstate
  rw [(run_bindParty ..).1, (run_bindParty ..).2]
  exact ⟨hanswer, hstate⟩

/-- **A party of which someone is declined is refused** for the first who is, and
those before come in and leave again. -/
theorem run_bindParty_of_declined {rest : List PlayerId}
    (h : realm.back leader id = player :: rest) :
    ∃ refusal, realm.verdict player id = .error refusal ∧
      ((bindParty leader id).run realm).answer = .error refusal ∧
      ((bindParty leader id).run realm).state
        = (realm.front leader id).foldl leave
            ((realm.front leader id).foldl (enter · · id) realm) := by
  have hnot : realm.admits id player = false := by
    have := List.head?_dropWhile_not (realm.admits id) (realm.party leader)
    rwa [← back, h] at this
  cases hverdict : realm.verdict player id with
  | ok =>
    rw [admits_iff.mpr hverdict] at hnot
    cases hnot
  | error refusal =>
    -- those before have come in by then, which is no matter for the verdict
    have hlater : ((realm.front leader id).foldl (enter · · id) realm).verdict player id
        = .error refusal := by
      rw [verdict_foldl_enter (notMem_front_of_mem_back (h ▸ List.mem_cons_self)), hverdict]
    obtain ⟨hanswer, hstate⟩ := run_bindAll_append leader [] (player :: rest)
      (nodup_front realm leader id) (admits_of_mem_front realm leader id)
    obtain ⟨hrefused, hleft⟩ := run_bindAll_of_error leader
      ([] ++ realm.front leader id) rest hlater
    rw [(run_bindParty ..).1, (run_bindParty ..).2, ← front_append_back realm leader id, h]
    exact ⟨refusal, rfl, hanswer.trans hrefused, hstate.trans hleft⟩

/-- **After a refusal** those before the first who is declined are in no
instance, and all others are where they were. -/
theorem isPlayerBound_bindParty_of_refused (h : realm.registry.Consistent)
    (refused : ((bindParty leader id).run realm).answer = .error refusal) :
    ((bindParty leader id).run realm).state.registry.isPlayerBound q j = true
      ↔ realm.registry.isPlayerBound q j = true ∧ q ∉ realm.front leader id := by
  cases hback : realm.back leader id with
  | nil =>
    -- nobody is declined, so the party would have been let in
    rw [(run_bindParty_of_admits hback).1] at refused
    cases refused
  | cons player rest =>
    obtain ⟨_, -, -, hstate⟩ := run_bindParty_of_declined hback
    rw [hstate]
    exact isPlayerBound_foldl_leave_enter h (nodup_front ..) (admits_of_mem_front realm leader id)

end Realm

/-- **When a refused party has nobody in the instance**: just in case neither the
first member who is declined nor any after was in it before. -/
theorem Run.refused_party_absent_iff {drift : MemoryWorld → MemoryWorld → Prop}
    {s : TemplateSettings} {w : MemoryWorld} {log : List (Call × Except Refusal Reply)}
    {realm : Realm MemoryWorld} (run : Run drift ⟨.ofSettings s, w⟩ log realm)
    {leader : PlayerId} {id : InstanceId} {refusal : Refusal}
    (refused : ((Realm.bindParty leader id).run realm).answer = .error refusal) :
    (∀ q ∈ realm.party leader,
        ((Realm.bindParty leader id).run realm).state.registry.isPlayerBound q id = false)
      ↔ ∀ q ∈ realm.back leader id, realm.registry.isPlayerBound q id = false := by
  have hafter := fun q =>
    Realm.isPlayerBound_bindParty_of_refused (q := q) (j := id) run.consistent refused
  simp only [Bool.eq_false_iff, ne_eq, hafter, not_and, not_not]
  constructor
  · intro hout q hback hbound
    refine Realm.notMem_front_of_mem_back hback (hout q ?_ hbound)
    rw [← Realm.front_append_back realm leader id]
    exact List.mem_append_right _ hback
  · intro hfree q hq hbound
    rw [← Realm.front_append_back realm leader id] at hq
    exact (List.mem_append.mp hq).resolve_right fun hback => hfree q hback hbound

/-- The second of three has lost the connection, and the party is refused. Nobody
was in the instance, and nobody is. -/
theorem Run.refused_trio_absent :
    ∃ log realm, Run MemoryWorld.Change ⟨.ofSettings .usual, MemoryWorld.trio⟩ log realm ∧
      ((Realm.bindParty ⟨1⟩ ⟨1⟩).run realm).answer = .error (.invalidPlayer ⟨2⟩) ∧
      ∀ q ∈ realm.party ⟨1⟩,
        ((Realm.bindParty ⟨1⟩ ⟨1⟩).run realm).state.registry.isPlayerBound q ⟨1⟩ = false := by
  have run := (opened_trio MemoryWorld.Change).drift (.setOnline ⟨2⟩ false)
  exact ⟨_, _, run, rfl, (refused_party_absent_iff run rfl).mpr (by decide +kernel)⟩

/-- The third was in the instance before, and stays in it although the party is
refused for the second. -/
theorem Run.refused_trio_leaves_third :
    ∃ log realm, Run MemoryWorld.Change ⟨.ofSettings .usual, MemoryWorld.trio⟩ log realm ∧
      ((Realm.bindParty ⟨1⟩ ⟨1⟩).run realm).answer = .error (.invalidPlayer ⟨2⟩) ∧
      ⟨3⟩ ∈ realm.party ⟨1⟩ ∧
      ((Realm.bindParty ⟨1⟩ ⟨1⟩).run realm).state.registry.isPlayerBound ⟨3⟩ ⟨1⟩ = true := by
  have entered := (opened_trio MemoryWorld.Change).call (.bindPlayer ⟨3⟩ ⟨1⟩) trivial
  have run := entered.drift (.setOnline ⟨2⟩ false)
  exact ⟨_, _, run, rfl, by decide +kernel, by decide +kernel⟩

end InstancedZones
