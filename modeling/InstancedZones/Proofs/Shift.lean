import InstancedZones.Proofs.Closing
import InstancedZones.Service.Request
import InstancedZones.Service.Sweep

/-!
# What the service does to the registry

The service owns a registry and a world. A `Shift` is a stretch of its work: commands
are handled in the order in which they waited in the queue, sweeps come between them
whenever one is due, and time passes on both clocks. Nothing is assumed of when the
sweeps and the commands come, so every interleaving is a shift.

Of all the service does, only the operations of the registry reach the registry and
the world. What a shift leaves behind is what these operations alone leave behind, one
after the other, and each reply is the answer of one of them,
`Shift.realm_eq_alone` and `Shift.answer_eq_alone`; and so a shift keeps what the
building blocks of the operations keep, `Shift.keeps`. A service that has stopped does
nothing at all, `Shift.stopped`.
-/

namespace InstancedZones

namespace Command

/-- The call that a command asks for. -/
def call? (now : Timestamp) : Command → Option Call
  | .create blueprint => some (.create blueprint now)
  | .bindPlayer player id => some (.bindPlayer player id)
  | .bindParty leader id => some (.bindParty leader id)
  | .teleportInto id player => some (.teleportInto id player)
  | .close id reason => some (.close id reason)
  | .playerLeave player => some (.playerLeave player)
  | _ => none

variable {W : Type} [World W]

/-- The operation that a command asks for: a call, or a look at the registry. The
commands about the service itself ask for none. -/
def operation? (now : Timestamp) (c : Command) : Option (Action (Realm W) (Except Refusal Reply)) :=
  match c with
  | .isPlayerBound player id =>
    some do return .ok (.answer ((← Realm.getRegistry).isPlayerBound player id))
  | .list => some do return .ok (.listing (← Realm.getRegistry).summaries)
  | c => (c.call? now).map Call.perform

end Command

namespace Service

/-- How the answer of an operation reaches whoever has sent the command. -/
def replied {α : Type} (answer : Except Refusal Reply) : Except ServiceFault (Answer α) :=
  (answer.mapError .refused).map .reply

variable {W : Type} {s : Service W}

/-! ## Handling one command -/

theorem run_operate {α : Type} (x : Action (Realm W) (Except Refusal α)) (reply : α → Reply) :
    (operate x reply).run s
      = ⟨((x.run s.realm).answer.map reply).mapError .refused,
          { s with realm := (x.run s.realm).state }, (x.run s.realm).events⟩ := by
  simp only [operate, Action.run_bind, onRealm, Action.run_within]
  cases (x.run s.realm).answer with
  | error refusal => simp [Except.map, Except.mapError]
  | ok value => simp [Except.map, Except.mapError]

variable [World W]

/-- **A command that asks for an operation is that operation**, on the registry and the
world. -/
theorem run_perform_of_operation {c : Command} {x : Action (Realm W) (Except Refusal Reply)}
    (h : c.operation? s.clock = some x) :
    (perform c).run s
      = ⟨(x.run s.realm).answer.mapError .refused, { s with realm := (x.run s.realm).state },
          (x.run s.realm).events⟩ := by
  unfold perform
  rw [Action.run_bind_of_run (Action.run_get s)]
  cases c with
  | create | bindPlayer | bindParty | teleportInto | close =>
    obtain rfl := Option.some.inj h
    rw [Call.perform, Action.run_bind_pure]
    exact run_operate _ _
  | playerLeave player =>
    obtain rfl := Option.some.inj h
    rw [Call.perform, Action.run_bind_pure, Action.run_bind_pure]
    rfl
  | isPlayerBound | list =>
    obtain rfl := Option.some.inj h
    rfl
  | pauseSweep | resumeSweep | sweepMetrics | shutdown => cases h

/-- Closing everything is closing the open instances one after the other. -/
theorem run_closeAll (realm : Realm W) :
    (closeAll.run realm).answer
        = ((Realm.closeEach shutdownReason realm.registry.ids).run realm).answer ∧
      (closeAll.run realm).state
        = ((Realm.closeEach shutdownReason realm.registry.ids).run realm).state := by
  unfold closeAll
  rw [Action.run_bind_of_run (Realm.run_getRegistry realm)]
  dsimp only
  split
  · exact ⟨rfl, rfl⟩
  · exact ⟨rfl, rfl⟩

/-- **A service that is told to shut down** closes everything and has stopped. -/
theorem perform_shutdown (s : Service W) :
    ((perform .shutdown).run s).answer = .ok (.reports (closeAll.run s.realm).answer) ∧
      ((perform .shutdown).run s).state
        = { s with realm := (closeAll.run s.realm).state, running := false } :=
  ⟨rfl, rfl⟩

/-- The commands about the sweep leave the registry and the world alone. -/
theorem realm_perform_of_none {c : Command} (h : c.operation? (W := W) s.clock = none)
    (hgoing : c ≠ .shutdown) : ((perform c).run s).state.realm = s.realm := by
  cases c with
  | shutdown => exact absurd rfl hgoing
  | pauseSweep | resumeSweep | sweepMetrics => rfl
  | _ => cases h

/-- **The service goes on** after a command unless it is told to shut down, or its sweep
is spent. -/
theorem running_perform {c : Command} (hrunning : s.running = true) (hgoing : c ≠ .shutdown) :
    ((perform c).run s).state.running = true ∨ ((perform c).run s).state.sweep.isSpent = true := by
  cases hc : c.operation? (W := W) s.clock with
  | some x =>
    rw [run_perform_of_operation hc]
    exact .inl hrunning
  | none =>
    cases c with
    | shutdown => exact absurd rfl hgoing
    | pauseSweep | sweepMetrics => exact .inl hrunning
    | resumeSweep =>
      show (s.running && !_) = true ∨ _
      rw [hrunning, Bool.true_and, Bool.not_eq_true', Bool.eq_false_iff]
      exact (em _).symm
    | _ => cases hc

/-! ## A stretch of work -/

/-- What the service has done. -/
inductive Deed
  /-- It has handled a command when the wall clock showed `now`. -/
  | handled (c : Command) (now : Timestamp) (answer : Except ServiceFault (Answer Empty))
  /-- It has begun a sweep when the wall clock showed `now`. -/
  | swept (now : Timestamp)

/-- **The work of a service**: from `first`, it has done what is on the list, and is now
as the last argument says. -/
inductive Shift (first : Service W) : List Deed → Service W → Prop
  /-- Nothing has happened yet. -/
  | start : Shift first [] first
  /-- The next command in the queue was handled, and if that was a call, it came back. -/
  | command {log : List Deed} {s : Service W} (c : Command) (before : Shift first log s)
      (returns : s.running = true → ∀ call ∈ c.call? s.clock, call.Returns s.realm) :
      Shift first (log ++ [.handled c s.clock ((handle (.command c)).run s).answer])
        ((handle (.command c : Request W Empty)).run s).state
  /-- A sweep was due. -/
  | sweep {log : List Deed} {s : Service W} {info : TickInfo} (before : Shift first log s)
      (running : s.running = true)
      (due : ((Ticker.wake s.elapsed 0).run s.sweep).answer = some info) :
      Shift first (log ++ [.swept s.clock]) (sweepIfDue.run s).state
  /-- Time passed, and the wall clock was set. -/
  | time {log : List Deed} {s : Service W} (clock : Timestamp) (elapsed : Nat)
      (before : Shift first log s) (later : s.elapsed ≤ elapsed) :
      Shift first log { s with clock, elapsed }

/-- The registry and the world after a deed, if its operation is all that reaches
them. -/
def Deed.apply (realm : Realm W) : Deed → Realm W
  | .handled c now _ =>
    match c.operation? now with
    | none => realm
    | some x => (x.run realm).state
  | .swept now => ((Realm.sweepExpired now).run realm).state

/-- **What the operations alone leave behind**, one after the other. -/
def alone (realm : Realm W) (log : List Deed) : Realm W := log.foldl Deed.apply realm

theorem alone_append (realm : Realm W) (log : List Deed) (deed : Deed) :
    alone realm (log ++ [deed]) = deed.apply (alone realm log) := by
  rw [alone, List.foldl_append]
  rfl

/-- A service that runs handles a command by carrying it out. -/
theorem run_handle_of_running {α : Type} (c : Command) (h : s.running = true) :
    ((handle (.command c : Request W α)).run s).answer
        = ((perform c).run s).answer.map .reply ∧
      ((handle (.command c : Request W α)).run s).state = ((perform c).run s).state := by
  unfold handle
  rw [Action.run_bind_of_run (Action.run_get s), if_pos h]
  exact ⟨rfl, rfl⟩

/-- What a service that has stopped answers to a command that waited in its queue.
Nobody waits for the reply when the sweep is paused or resumed, and it counts as
done. -/
def turnedAway {α : Type} : Command → Except ServiceFault (Answer α)
  | .pauseSweep => .ok (.reply .done)
  | .resumeSweep => .ok (.reply .done)
  | _ => .error .unavailable

theorem run_handle_of_stopped {α : Type} (c : Command) (h : s.running = false) :
    (handle (.command c : Request W α)).run s = ⟨turnedAway c, s, []⟩ := by
  unfold handle
  rw [Action.run_bind_of_run (Action.run_get s), if_neg (by rw [h]; exact Bool.false_ne_true)]
  cases c <;> rfl

/-- **A sweep that is due** closes the expired instances, or the sweep is spent and the
service with it. -/
theorem sweepIfDue_of_due {info : TickInfo} (hrunning : s.running = true)
    (hdue : ((Ticker.wake s.elapsed 0).run s.sweep).answer = some info) :
    ((sweepIfDue.run s).state.running = true ∧
      (sweepIfDue.run s).state.realm = ((Realm.sweepExpired s.clock).run s.realm).state) ∨
    ((sweepIfDue.run s).state.running = false ∧
      (sweepIfDue.run s).state.sweep.isSpent = true ∧
      (sweepIfDue.run s).state.realm = s.realm) := by
  unfold sweepIfDue
  rw [Action.run_bind_of_run (Action.run_get s)]
  simp only [Action.run_bind, onSweep, Action.run_within, hdue, breakDownIfSpent,
    Action.run_modify, Action.run_get, hrunning, Bool.true_and]
  cases hspent : ((Ticker.wake s.elapsed 0).run s.sweep).state.isSpent with
  | true => exact .inr ⟨rfl, hspent, rfl⟩
  | false =>
    -- what is said about the sweep afterwards changes nothing
    simp only [Bool.not_false, if_true, Action.run_bind]
    refine .inl ⟨?_, ?_⟩
    · split <;> rfl
    · split <;> rfl

namespace Shift

variable {first : Service W} {log : List Deed}

/-! ## What a shift keeps -/

/-- Every command that comes back keeps what the building blocks of the operations
keep. -/
theorem keeps_perform {I : Realm W → Prop} (steps : Realm.StepsKeep I) (c : Command)
    (returns : ∀ call ∈ c.call? s.clock, call.Returns s.realm) (h : I s.realm) :
    I ((perform c).run s).state.realm := by
  cases hc : c.operation? (W := W) s.clock with
  | some x =>
    rw [run_perform_of_operation hc]
    cases c with
    | isPlayerBound | list =>
      obtain rfl := Option.some.inj hc
      exact h
    | pauseSweep | resumeSweep | sweepMetrics | shutdown => cases hc
    | _ =>
      obtain rfl := Option.some.inj hc
      exact steps.perform _ h (returns _ rfl)
  | none =>
    by_cases hgoing : c = .shutdown
    · subst hgoing
      rw [(perform_shutdown s).2]
      show I (closeAll.run s.realm).state
      rw [(run_closeAll s.realm).2]
      exact steps.closeEach _ _ s.realm h
    · rw [realm_perform_of_none hc hgoing]
      exact h

/-- **An invariant of the building blocks is an invariant of every shift.** -/
theorem keeps {I : Realm W → Prop} (steps : Realm.StepsKeep I) (shift : Shift first log s)
    (hfirst : I first.realm) : I s.realm := by
  induction shift with
  | start => exact hfirst
  | @command log s c before returns ih =>
    cases hrunning : s.running with
    | false =>
      rw [run_handle_of_stopped c hrunning]
      exact ih
    | true =>
      rw [(run_handle_of_running c hrunning).2]
      exact keeps_perform steps c (returns hrunning) ih
  | sweep before running due ih =>
    rcases sweepIfDue_of_due running due with ⟨-, hswept⟩ | ⟨-, -, hsame⟩
    · rw [hswept]
      exact steps.sweepExpired _ _ ih
    · rw [hsame]
      exact ih
  | time clock elapsed before later ih => exact ih

/-! ## The operations alone -/

/-- A service that has stopped does not go on. -/
theorem running_of_handle {c : Command}
    (h : ((handle (.command c : Request W Empty)).run s).state.running = true) :
    s.running = true := by
  cases hrunning : s.running with
  | true => rfl
  | false =>
    rw [run_handle_of_stopped c hrunning, hrunning] at h
    exact h

/-- **A service that runs has done what the operations alone do.** -/
theorem realm_eq_alone (shift : Shift first log s) (hrunning : s.running = true) :
    s.realm = alone first.realm log := by
  induction shift with
  | start => rfl
  | @command log s c before returns ih =>
    have hbefore := running_of_handle hrunning
    rw [(run_handle_of_running c hbefore).2] at hrunning ⊢
    rw [alone_append, ← ih hbefore]
    cases hc : c.operation? (W := W) s.clock with
    | some x =>
      rw [run_perform_of_operation hc]
      simp only [Deed.apply, hc]
    | none =>
      have hgoing : c ≠ .shutdown := by
        rintro rfl
        rw [(perform_shutdown s).2] at hrunning
        exact Bool.false_ne_true hrunning
      rw [realm_perform_of_none hc hgoing]
      simp only [Deed.apply, hc]
  | sweep before running due ih =>
    rw [alone_append, ← ih running]
    rcases sweepIfDue_of_due running due with ⟨-, hswept⟩ | ⟨hstopped, -, -⟩
    · exact hswept
    · rw [hstopped] at hrunning
      exact absurd hrunning Bool.false_ne_true
  | time clock elapsed before later ih => exact ih hrunning

/-- A deed that is not the last is found in the list without the last. -/
theorem eq_of_concat {before after : List Deed} {deed last last' : Deed}
    (h : log ++ [last] = before ++ deed :: after.concat last') : log = before ++ deed :: after := by
  rw [List.concat_eq_append, ← List.cons_append, ← List.append_assoc] at h
  exact (List.append_inj' h rfl).1

/-- **Every reply is the answer of its operation**, in the state that the operations
before it alone have left. -/
theorem answer_eq_alone (shift : Shift first log s) (hrunning : s.running = true)
    {before after : List Deed} {c : Command} {now : Timestamp}
    {answer : Except ServiceFault (Answer Empty)}
    {x : Action (Realm W) (Except Refusal Reply)}
    (hlog : log = before ++ .handled c now answer :: after) (hx : c.operation? now = some x) :
    answer = replied (x.run (alone first.realm before)).answer := by
  induction shift generalizing after with
  | start => simp at hlog
  | @command log s c' shift returns ih =>
    have hbefore := running_of_handle hrunning
    rcases after.eq_nil_or_concat with rfl | ⟨after, last, rfl⟩
    · -- the command is the last deed so far
      obtain ⟨rfl, hlast⟩ := List.append_inj' hlog rfl
      obtain ⟨rfl, rfl, rfl⟩ := by simpa using hlast
      rw [(run_handle_of_running _ hbefore).1, run_perform_of_operation hx,
        ← shift.realm_eq_alone hbefore]
      rfl
    · exact ih hbefore (eq_of_concat hlog)
  | sweep shift running due ih =>
    rcases after.eq_nil_or_concat with rfl | ⟨after, last, rfl⟩
    · have hlast := (List.append_inj' hlog rfl).2
      simp at hlast
    · exact ih running (eq_of_concat hlog)
  | time clock elapsed shift later ih => exact ih hrunning hlog

/-! ## The end -/

/-- **A service goes on** until it is told to shut down or its sweep is spent. -/
theorem running_or (shift : Shift first log s) (hfirst : first.running = true) :
    s.running = true ∨ (∃ now answer, .handled .shutdown now answer ∈ log) ∨
      s.sweep.isSpent = true := by
  induction shift with
  | start => exact .inl hfirst
  | @command log s c before returns ih =>
    cases hrunning : s.running with
    | false =>
      rw [run_handle_of_stopped c hrunning]
      refine ih.imp_right (Or.imp_left ?_)
      rintro ⟨now, answer, hmem⟩
      exact ⟨now, answer, List.mem_append_left _ hmem⟩
    | true =>
      rw [(run_handle_of_running c hrunning).2]
      by_cases hgoing : c = .shutdown
      · subst hgoing
        exact .inr (.inl ⟨_, _, List.mem_append_right _ (List.mem_singleton_self _)⟩)
      · exact (running_perform hrunning hgoing).imp_right .inr
  | sweep before running due ih =>
    rcases sweepIfDue_of_due running due with ⟨hgoes, -⟩ | ⟨-, hspent, -⟩
    · exact .inl hgoes
    · exact .inr (.inr hspent)
  | time clock elapsed before later ih => exact ih

/-- **A service that has stopped does nothing more**: no command is carried out, and
whoever waits for a reply is told that the service is unavailable. -/
theorem stopped (shift : Shift first log s) (hstopped : first.running = false) :
    s.running = false ∧ s.realm = first.realm ∧
      ∀ deed ∈ log, ∃ c now, deed = .handled c now (turnedAway c) := by
  induction shift with
  | start => exact ⟨hstopped, rfl, by simp⟩
  | @command log s c before returns ih =>
    obtain ⟨hrunning, hrealm, hlog⟩ := ih
    rw [run_handle_of_stopped c hrunning]
    refine ⟨hrunning, hrealm, fun deed hdeed => ?_⟩
    rcases List.mem_append.mp hdeed with hmem | hlast
    · exact hlog deed hmem
    · exact ⟨c, _, List.mem_singleton.mp hlast⟩
  | sweep before running due ih =>
    rw [ih.1] at running
    exact absurd running Bool.false_ne_true
  | time clock elapsed before later ih => exact ih

end Shift

end Service

end InstancedZones
