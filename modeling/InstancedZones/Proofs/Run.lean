import InstancedZones.Proofs.FreeIdentity
import InstancedZones.Proofs.Keeping
import InstancedZones.Proofs.Readiness
import InstancedZones.Registry.Teleport
import InstancedZones.Service.Command

/-!
# Runs

A registry is used by calling its operations, one after the other and in any
order, while the world goes on by itself between the calls. A `Run` is one such
history: the calls made so far with what they answered, and the realm they have
led to. How the world may go on is a parameter, a relation between the world
before and the world after; the relation that always holds makes the world an
adversary, and the one that never holds leaves it to the calls alone.

Only calls that come back are part of a run. All of them do, except one: where
every identity is taken, the search for a free one goes round for ever, and the
call to open an instance has no state after it.

`Run.keeps` is the induction that every invariant is proved by. Of the
operations it asks for their building blocks only, `Realm.StepsKeep`: the loops
over parties and over instances that are to be closed, the undoing of what was
begun and the order of the steps are dealt with here, once for all invariants.
What opening and closing change may still be kept by all that players do;
`Realm.VisitsKeep` asks for their building blocks alone, and `Realm.EntriesKeep` for
those of coming in and leaving without being moved. For a fact about the
registry alone the building blocks come down to five changes of the registry,
`Registry.StepsKeep`.
-/

namespace InstancedZones

/-- A call of one of the operations that change the registry. The clock is read
at the moment of the call. -/
inductive Call
  /-- Open an instance. -/
  | create (blueprint : Blueprint) (now : Timestamp)
  /-- Let a player into an instance. -/
  | bindPlayer (player : PlayerId) (id : InstanceId)
  /-- Let a party into an instance. -/
  | bindParty (leader : PlayerId) (id : InstanceId)
  /-- Teleport a player into an instance. -/
  | teleportInto (id : InstanceId) (player : PlayerId)
  /-- Close an instance. -/
  | close (id : InstanceId) (reason : String)
  /-- Take a player out. -/
  | playerLeave (player : PlayerId)
  /-- Close the instances whose end has come. -/
  | sweepExpired (now : Timestamp)
deriving DecidableEq

namespace Call

variable {W : Type} [World W]

/-- Carries out a call. -/
def perform : Call → Action (Realm W) (Except Refusal Reply)
  | .create blueprint now => do return (← Realm.create blueprint now).map .created
  | .bindPlayer player id => do return (← Realm.bindPlayer player id).map fun _ => .done
  | .bindParty leader id => do return (← Realm.bindParty leader id).map fun _ => .done
  | .teleportInto id player => do return (← Realm.teleportInto id player).map fun _ => .done
  | .close id reason => do return (← Realm.close id reason).map .closed
  | .playerLeave player => do return .ok (.answer (← Realm.playerLeave player))
  | .sweepExpired now => do return .ok (.reports (← Realm.sweepExpired now))

/-- **The call comes back**: if it opens an instance and the map template is
ready, the search for a free identity stops. -/
def Returns (realm : Realm W) : Call → Prop
  | .create blueprint _ =>
    ∀ status, ((Realm.readyTemplate blueprint.mapTemplate).run realm).answer = .ok status →
      realm.registry.HasFreeId
  | _ => True

end Call

/-- **The histories of a realm**: from `start`, the calls in the list have given
the answers beside them, the world has gone on as `drift` allows, and the realm
is now the last argument. -/
inductive Run {W : Type} [World W] (drift : W → W → Prop) (start : Realm W) :
    List (Call × Except Refusal Reply) → Realm W → Prop
  /-- Nothing has happened yet. -/
  | start : Run drift start [] start
  /-- One more call was made and came back. -/
  | call {log : List (Call × Except Refusal Reply)} {realm : Realm W} (c : Call)
      (before : Run drift start log realm) (returns : c.Returns realm) :
      Run drift start (log ++ [(c, (c.perform.run realm).answer)]) (c.perform.run realm).state
  /-- The world went on. -/
  | drift {log : List (Call × Except Refusal Reply)} {realm : Realm W} {w : W}
      (before : Run drift start log realm) (goes : drift realm.world w) :
      Run drift start log { realm with world := w }

namespace Realm

variable {W : Type} [World W] {I : Realm W → Prop}

/-! ## The building blocks -/

/-- **The building blocks of coming in and leaving keep `I`.** A player comes in or
leaves, and the world is asked for a party. -/
structure EntriesKeep (I : Realm W → Prop) : Prop where
  bindPlayer : ∀ player id, (bindPlayer player id).Keeps I
  playerLeave : ∀ player, (playerLeave player).Keeps I
  partyMembers : ∀ player, (onWorld (World.partyMembers player)).Keeps I

/-- **The building blocks of coming and going keep `I`.** Beside players who come in and
leave, the world is asked for a template, and to move a player to the entry of an open
instance. -/
structure VisitsKeep (I : Realm W → Prop) : Prop extends EntriesKeep I where
  readyTemplate : ∀ name, (readyTemplate name).Keeps I
  arrival : ∀ {realm : Realm W} {id : InstanceId} {i : Instance} player, I realm →
    realm.registry.instances[id]? = some i →
    I ((onWorld (World.relocate player i.entry true)).run realm).state

/-- **The building blocks of the operations keep `I`.** Beside players who come and
go, an instance is closed, or opened once its template is ready. -/
structure StepsKeep (I : Realm W → Prop) : Prop extends VisitsKeep I where
  close : ∀ id reason, (close id reason).Keeps I
  opening : ∀ {realm : Realm W} b now, I realm →
    realm.registry.templates.isResolved b.mapTemplate = true →
    realm.registry.freeId ∉ realm.registry.instances →
    I { realm with registry := realm.registry.add (.ofBlueprint realm.registry.freeId b now) }

/-! ## From the changes of a registry to the building blocks -/

/-- **Letting a player in** enrolls the player, if the verdict is in favour. -/
theorem registry_bindPlayer (player : PlayerId) (id : InstanceId) (realm : Realm W) :
    ((bindPlayer player id).run realm).state.registry = realm.registry ∨
    ∃ info, realm.registry.verdict player info id = .ok () ∧
      ((bindPlayer player id).run realm).state.registry = realm.registry.enroll player id := by
  simp only [bindPlayer, Action.run_bind, run_onWorld, run_getRegistry]
  cases hverdict : realm.registry.verdict player
      ((World.resolve player).run realm.world).answer id with
  | error refusal => exact .inl rfl
  | ok => exact .inr ⟨_, hverdict, rfl⟩

/-- **Taking a player out** withdraws the player from the instance of the index. -/
theorem registry_playerLeave (player : PlayerId) (realm : Realm W) :
    ((playerLeave player).run realm).state.registry = realm.registry ∨
    ∃ id, realm.registry.instanceOf player = some id ∧
      ((playerLeave player).run realm).state.registry = realm.registry.withdraw player id := by
  simp only [playerLeave, Action.run_bind, run_getRegistry]
  cases hin : realm.registry.instanceOf player with
  | none => exact .inl rfl
  | some id => exact .inr ⟨id, rfl, rfl⟩

/-- **Closing** dissolves the instance, if it is open. -/
theorem registry_close (id : InstanceId) (reason : String) (realm : Realm W) :
    ((close id reason).run realm).state.registry = realm.registry ∨
    ∃ i, realm.registry.instances[id]? = some i ∧
      ((close id reason).run realm).state.registry = realm.registry.dissolve i := by
  simp only [close, Action.run_bind, run_getRegistry]
  cases hi : realm.registry.instances[id]? with
  | none => exact .inl rfl
  | some i => exact .inr ⟨i, rfl, rfl⟩

end Realm

/-- **The changes that coming and going make to a registry keep `J`.** Of the templates
it is only said that none is forgotten. -/
structure Registry.VisitsKeep (J : Registry → Prop) : Prop where
  enroll : ∀ {r : Registry} {player : PlayerId} {id : InstanceId} {info : Option PlayerInfo},
    J r → r.verdict player info id = .ok () → J (r.enroll player id)
  withdraw : ∀ {r : Registry} {player : PlayerId} {id : InstanceId},
    J r → r.instanceOf player = some id → J (r.withdraw player id)
  templates : ∀ {r : Registry} {cache : TemplateCache}, J r →
    (∀ name, r.templates.isResolved name = true → cache.isResolved name = true) →
    J { r with templates := cache }

/-- **The changes that the operations make to a registry keep `J`.** -/
structure Registry.StepsKeep (J : Registry → Prop) : Prop extends Registry.VisitsKeep J where
  dissolve : ∀ {r : Registry} {id : InstanceId} {i : Instance},
    J r → r.instances[id]? = some i → J (r.dissolve i)
  add : ∀ {r : Registry} (b : Blueprint) (now : Timestamp), J r →
    r.templates.isResolved b.mapTemplate = true → r.freeId ∉ r.instances →
    J (r.add (.ofBlueprint r.freeId b now))

namespace Realm

variable {W : Type} [World W] {I : Realm W → Prop} {J : Registry → Prop}

theorem VisitsKeep.ofRegistry (h : Registry.VisitsKeep J) :
    VisitsKeep fun realm : Realm W => J realm.registry where
  bindPlayer player id realm hJ := by
    rcases registry_bindPlayer player id realm with hsame | ⟨info, hok, hentered⟩
    · rw [hsame]
      exact hJ
    · rw [hentered]
      exact h.enroll hJ hok
  playerLeave player realm hJ := by
    rcases registry_playerLeave player realm with hsame | ⟨id, hin, hleft⟩
    · rw [hsame]
      exact hJ
    · rw [hleft]
      exact h.withdraw hJ hin
  readyTemplate name realm hJ := by
    rw [run_readyTemplate]
    exact h.templates hJ fun other hother =>
      TemplateCache.isResolved_ensureLoaded hother name realm.world
  partyMembers _ := keeps_onWorld _
  arrival _ hJ _ := hJ

theorem StepsKeep.ofRegistry (h : Registry.StepsKeep J) :
    StepsKeep fun realm : Realm W => J realm.registry where
  toVisitsKeep := .ofRegistry h.toVisitsKeep
  close id reason realm hJ := by
    rcases registry_close id reason realm with hsame | ⟨i, hi, hclosed⟩
    · rw [hsame]
      exact hJ
    · rw [hclosed]
      exact h.dissolve hJ hi
  opening b now hJ hresolved hfree := h.add b now hJ hresolved hfree

/-! ## From the building blocks to the operations -/

namespace EntriesKeep

theorem release (h : EntriesKeep I) (players : List PlayerId) :
    (Realm.release players : Action (Realm W) Unit).Keeps I := by
  induction players with
  | nil => exact Action.keeps_pure ()
  | cons player rest ih => exact (h.playerLeave player).bind fun _ => ih

theorem bindAll (h : EntriesKeep I) (leader : PlayerId) (id : InstanceId)
    (bound players : List PlayerId) :
    (Realm.bindAll leader id bound players : Action (Realm W) _).Keeps I := by
  induction players generalizing bound with
  | nil => exact (Action.keeps_record _).bind fun _ => Action.keeps_pure _
  | cons player rest ih =>
    refine (h.bindPlayer player id).bind fun answer => ?_
    cases answer with
    | ok => exact ih _
    | error refusal =>
      exact (Action.keeps_record _).bind fun _ =>
        (h.release bound).bind fun _ => Action.keeps_pure _

theorem bindParty (h : EntriesKeep I) (leader : PlayerId) (id : InstanceId) :
    (Realm.bindParty leader id : Action (Realm W) _).Keeps I := by
  refine (h.partyMembers leader).bind fun answer => ?_
  cases answer with
  | none => exact h.bindPlayer leader id
  | some members => exact h.bindAll leader id [] _

end EntriesKeep

namespace VisitsKeep

/-- Taking a player out again, with a word about it, keeps `I`. -/
theorem undo (h : VisitsKeep I) {α : Type} (e : Event) (player : PlayerId) (answer : α) :
    (do
      Action.record e
      let _ ← Realm.playerLeave player
      return answer : Action (Realm W) α).Keeps I :=
  (Action.keeps_record e).bind fun _ =>
    (h.playerLeave player).bind fun _ => Action.keeps_pure answer

/-- A player whose teleport fails has come in and leaves again; one whose
teleport succeeds has come in and been moved. -/
theorem teleportInto (h : VisitsKeep I) (id : InstanceId) (player : PlayerId) :
    (Realm.teleportInto id player : Action (Realm W) _).Keeps I := by
  refine (h.bindPlayer player id).bind fun answer => ?_
  cases answer with
  | error refusal => exact Action.keeps_pure _
  | ok =>
    intro realm hI
    rw [Action.run_bind, run_getRegistry]
    cases hi : realm.registry.instances[id]? with
    | none => exact hI
    | some i =>
      have hready := h.readyTemplate i.mapTemplate realm hI
      -- the template made ready, the instance is still the one looked up before
      have harrival := h.arrival player hready (show _ = some i from hi)
      simp only [Action.run_bind]
      cases ((Realm.readyTemplate i.mapTemplate).run realm).answer with
      | error refusal => exact h.undo _ player _ _ hready
      | ok status =>
        simp only [Action.run_bind]
        split
        · exact harrival
        · exact h.undo _ player _ _ harrival

end VisitsKeep

/-- **Closing the instances of a list keeps** what closing each of them keeps. -/
theorem keeps_closeEach {reason : String} {ids : List InstanceId}
    (h : ∀ id ∈ ids, (Realm.close id reason : Action (Realm W) _).Keeps I) :
    (closeEach reason ids : Action (Realm W) _).Keeps I := by
  induction ids with
  | nil => exact Action.keeps_pure _
  | cons id rest ih =>
    have hrest := ih fun j hj => h j (List.mem_cons_of_mem _ hj)
    refine (h id List.mem_cons_self).bind fun answer => ?_
    cases answer with
    | error refusal => exact hrest
    | ok report => exact hrest.bind fun _ => Action.keeps_pure _

/-- **A sweep closes the expired instances** one after the other, and does no more. -/
theorem run_sweepExpired (now : Timestamp) (realm : Realm W) :
    ((sweepExpired now).run realm).answer
        = ((closeEach expiredReason (realm.registry.expiredAt now)).run realm).answer ∧
      ((sweepExpired now).run realm).state
        = ((closeEach expiredReason (realm.registry.expiredAt now)).run realm).state := by
  unfold sweepExpired
  rw [Action.run_bind_of_run (run_getRegistry realm)]
  cases realm.registry.expiredAt now with
  | nil => exact ⟨rfl, rfl⟩
  | cons id rest => exact ⟨rfl, rfl⟩

namespace StepsKeep

/-- Opening an instance keeps `I`, if it comes back. -/
theorem create (h : StepsKeep I) (b : Blueprint) (now : Timestamp) (realm : Realm W)
    (hI : I realm) (returns : (Call.create b now).Returns realm) :
    I ((Realm.create b now).run realm).state := by
  have hready := h.readyTemplate b.mapTemplate realm hI
  rw [Realm.create, Action.run_bind]
  cases hanswer : ((Realm.readyTemplate b.mapTemplate).run realm).answer with
  | error refusal => exact hready
  | ok status =>
    have hresolved := TemplateCache.isResolved_of_ensureLoaded hanswer
    -- the search sees the instances and the counter, which the template leaves alone
    have hfree := Registry.freeId_notMem
      (r := ((Realm.readyTemplate b.mapTemplate).run realm).state.registry)
      (returns status hanswer)
    exact h.opening b now hready hresolved hfree

theorem closeEach (h : StepsKeep I) (reason : String) (ids : List InstanceId) :
    (Realm.closeEach reason ids : Action (Realm W) _).Keeps I :=
  keeps_closeEach fun id _ => h.close id reason

theorem sweepExpired (h : StepsKeep I) (now : Timestamp) :
    (Realm.sweepExpired now : Action (Realm W) _).Keeps I := by
  intro realm hI
  rw [(run_sweepExpired now realm).2]
  exact h.closeEach _ _ realm hI

/-- **Every call that comes back keeps what the building blocks keep.** -/
theorem perform (h : StepsKeep I) (c : Call) {realm : Realm W} (hI : I realm)
    (returns : c.Returns realm) : I (c.perform.run realm).state := by
  cases c with
  | create b now => exact h.create b now realm hI returns
  | bindPlayer player id => exact h.bindPlayer player id realm hI
  | bindParty leader id => exact h.bindParty leader id realm hI
  | teleportInto id player => exact h.teleportInto id player realm hI
  | close id reason => exact h.close id reason realm hI
  | playerLeave player => exact h.playerLeave player realm hI
  | sweepExpired now => exact h.sweepExpired now realm hI

end StepsKeep

end Realm

/-- **An invariant of the building blocks is an invariant of every run**, if the
world going on by itself keeps it too. -/
theorem Run.keeps {W : Type} [World W] {drift : W → W → Prop} {I : Realm W → Prop}
    {start realm : Realm W} {log : List (Call × Except Refusal Reply)}
    (run : Run drift start log realm) (steps : Realm.StepsKeep I)
    (drifts : ∀ realm w, I realm → drift realm.world w → I { realm with world := w })
    (hstart : I start) : I realm := by
  induction run with
  | start => exact hstart
  | call c _ returns ih => exact steps.perform c ih returns
  | drift _ goes ih => exact drifts _ _ ih goes

/-- **A call in the log** was made in a realm that the calls before it have led to, and was
answered what it answers there. -/
theorem Run.exists_before {W : Type} [World W] {drift : W → W → Prop} {start realm : Realm W}
    {log before after : List (Call × Except Refusal Reply)} {c : Call}
    {answer : Except Refusal Reply} (run : Run drift start log realm)
    (hlog : log = before ++ (c, answer) :: after) :
    ∃ mid, Run drift start before mid ∧ (c.perform.run mid).answer = answer := by
  induction run generalizing after with
  | start => simp at hlog
  | drift _ _ ih => exact ih hlog
  | call c' earlier returns ih =>
    rcases List.eq_nil_or_concat after with rfl | ⟨after, entry, rfl⟩
    · obtain ⟨rfl, hentry⟩ := List.append_inj' hlog rfl
      obtain ⟨rfl, hanswer⟩ := Prod.mk.inj (List.cons.inj hentry).1
      exact ⟨_, earlier, hanswer⟩
    · rw [List.concat_eq_append, ← List.cons_append, ← List.append_assoc] at hlog
      exact ih (List.append_inj' hlog rfl).1

end InstancedZones
