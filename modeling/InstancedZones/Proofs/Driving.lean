import InstancedZones.Proofs.Shift
import InstancedZones.Proofs.Waking

/-!
# How the service is driven

Whoever drives the service lets time pass and sends commands, one by one or many at
once. Each of these is a stretch of its work: sleeping and leaping are shifts with a
sweep whenever one is due, and a burst of commands is a shift in which they are handled
in the order they were sent in, up to the one for which there is no place in the queue
any more. So what holds of every shift holds however the service is driven.
-/

namespace InstancedZones.Service

variable {W : Type} [World W] {first s : Service W} {log : List Deed}

namespace Shift

/-- **Letting time pass is a stretch of work**, with a sweep whenever one is due. -/
theorem passUntil (shift : Shift first log s) (limit fuel : Nat) :
    ∃ deeds, Shift first (log ++ deeds) ((Service.passUntil limit fuel).run s).state := by
  have hrest : ∀ {log : List Deed} {s : Service W}, Shift first log s →
      ∃ deeds, Shift first (log ++ deeds) { s with elapsed := max s.elapsed limit } := by
    intro log s shift
    refine ⟨[], ?_⟩
    rw [List.append_nil]
    exact shift.time s.clock _ (Nat.le_max_left _ _)
  induction fuel generalizing s log with
  | zero => exact hrest shift
  | succ fuel ih =>
    unfold Service.passUntil
    rw [Action.run_bind_of_run (Action.run_get s)]
    cases hrunning : s.running with
    | false => exact hrest shift
    | true =>
      rw [if_pos rfl]
      cases hwake : s.sweep.nextWake? s.elapsed with
      | none => exact hrest shift
      | some moment =>
        obtain ⟨hle, info, hdue⟩ := Ticker.wake_of_nextWake? 0 hwake
        dsimp only
        split
        · obtain ⟨deeds, hshift⟩ := ih ((shift.time s.clock moment hle).sweep hrunning hdue)
          refine ⟨.swept s.clock :: deeds, ?_⟩
          rw [List.append_cons]
          exact hshift
        · exact hrest shift

/-- Sleeping is a stretch of work, and so is a leap of the clock. -/
theorem sleep (shift : Shift first log s) (nanos : Nat) :
    ∃ deeds, Shift first (log ++ deeds) ((Service.sleep nanos).run s).state :=
  shift.passUntil _ _

theorem jump (shift : Shift first log s) (nanos : Nat) :
    ∃ deeds, Shift first (log ++ deeds) ((Service.jump nanos).run s).state :=
  (shift.time s.clock (s.elapsed + nanos) (Nat.le_add_right _ _)).sleep 0

end Shift

/-! ## Many commands at once -/

/-- Commands as they are sent. -/
def requests (cs : List Command) : List (Request W Empty) := cs.map .command

/-- The command that was handled. -/
def Deed.command? : Deed → Option Command
  | .handled c _ _ => some c
  | .swept _ => none

/-- What the command was answered with. -/
def Deed.answer? : Deed → Option (Except ServiceFault (Answer Empty))
  | .handled _ _ answer => some answer
  | .swept _ => none

/-- **The first of several requests** is handled, unless there is no place in the queue for
it and none will come free. -/
theorem requestFrom_cons {α : Type} (capacity turn queued : Nat) (q : Request W α)
    (qs : List (Request W α)) (s : Service W) :
    ∃ turn' queued',
      ((capacity = 0 ∨ s.running = false) ∧
        ((requestFrom capacity turn queued (q :: qs)).run s).answer
          = .error .unavailable :: ((requestFrom capacity turn' 0 qs).run s).answer ∧
        ((requestFrom capacity turn queued (q :: qs)).run s).state
          = ((requestFrom capacity turn' 0 qs).run s).state) ∨
      (((requestFrom capacity turn queued (q :: qs)).run s).answer
          = ((handle q).run s).answer ::
            ((requestFrom capacity turn' queued' qs).run ((handle q).run s).state).answer ∧
        ((requestFrom capacity turn queued (q :: qs)).run s).state
          = ((requestFrom capacity turn' queued' qs).run ((handle q).run s).state).state) := by
  rw [requestFrom, Action.run_bind_of_run (Action.run_get s)]
  dsimp only
  generalize (if ((turn = 0 || queued = 0) && s.running) = true then burst else turn) = turn'
  generalize hqueue :
    (if ((turn = 0 || queued = 0) && s.running) = true then capacity else queued) = queued'
  by_cases hqueued : queued' = 0
  · refine ⟨turn' - 1, 0, .inl ⟨?_, ?_⟩⟩
    · cases hrunning : s.running with
      | false => exact .inr rfl
      | true =>
        -- as long as the service runs, an empty queue is filled again
        rw [hqueued, hrunning, Bool.and_true] at hqueue
        split at hqueue
        · exact .inl hqueue
        · next hrefill => exact absurd (by simp [hqueue]) hrefill
    · rw [if_pos hqueued, pure_bind, Action.run_bind_pure, hqueued]
      exact ⟨rfl, rfl⟩
  · refine ⟨turn' - 1, queued' - 1, .inr ?_⟩
    rw [if_neg hqueued, Action.run_bind, Action.run_bind_pure]
    exact ⟨rfl, rfl⟩

/-- Where there is no place in the queue and none will come free, nothing is accepted. -/
theorem requestFrom_of_full {α : Type} {capacity : Nat}
    (hfull : capacity = 0 ∨ s.running = false) (turn : Nat) (qs : List (Request W α)) :
    ((requestFrom capacity turn 0 qs).run s).answer = qs.map (fun _ => .error .unavailable) ∧
      ((requestFrom capacity turn 0 qs).run s).state = s := by
  induction qs generalizing turn with
  | nil => exact ⟨rfl, rfl⟩
  | cons q qs ih =>
    unfold requestFrom
    rw [Action.run_bind_of_run (Action.run_get s)]
    dsimp only
    generalize (if ((turn = 0 || (0 : Nat) = 0) && s.running) = true then burst else turn) = turn'
    have hqueued :
        (if ((turn = 0 || (0 : Nat) = 0) && s.running) = true then capacity else 0) = 0 := by
      rcases hfull with hcapacity | hstopped
      · rw [hcapacity, ite_self]
      · rw [hstopped, Bool.and_false, if_neg Bool.false_ne_true]
    rw [hqueued, if_pos rfl, pure_bind, Action.run_bind_pure]
    obtain ⟨hanswer, hstate⟩ := ih (turn' - 1)
    exact ⟨congrArg _ hanswer, hstate⟩

namespace Shift

/-- **Sending commands all at once is a stretch of work**: they are handled in order, up
to the one for which there is no place in the queue any more; those from there on are told
that the service is unavailable. -/
theorem requestFrom {cs : List Command} (shift : Shift first log s)
    (returns : ∀ {log : List Deed} {s : Service W}, Shift first log s → s.running = true →
      ∀ c ∈ cs, ∀ call ∈ c.call? s.clock, call.Returns s.realm)
    (capacity turn queued : Nat) :
    ∃ deeds refused,
      Shift first (log ++ deeds)
        ((Service.requestFrom capacity turn queued (requests cs)).run s).state ∧
      cs = deeds.filterMap Deed.command? ++ refused ∧
      ((Service.requestFrom capacity turn queued (requests cs)).run s).answer
        = deeds.filterMap Deed.answer? ++ refused.map (fun _ => .error .unavailable) := by
  induction cs generalizing s log turn queued with
  | nil =>
    refine ⟨[], [], ?_, rfl, rfl⟩
    rw [List.append_nil]
    exact shift
  | cons c cs ih =>
    have hhandled := shift.command c fun hrunning => returns shift hrunning c List.mem_cons_self
    have hcons : (requests (c :: cs) : List (Request W Empty)) = .command c :: requests cs := rfl
    rw [hcons]
    obtain ⟨turn', queued', ⟨hfull, hanswer, hstate⟩ | ⟨hanswer, hstate⟩⟩ :=
      requestFrom_cons capacity turn queued (.command c) (requests cs) s
    · obtain ⟨hanswers, hsame⟩ := requestFrom_of_full hfull turn' (requests cs)
      rw [hanswer, hstate, hanswers, hsame]
      refine ⟨[], c :: cs, ?_, rfl, ?_⟩
      · rw [List.append_nil]
        exact shift
      · rw [requests, List.map_map]
        rfl
    · rw [hanswer, hstate]
      obtain ⟨deeds, refused, hshift, hcs, hanswers⟩ := ih hhandled
        (fun shift hrunning c' hc' => returns shift hrunning c' (List.mem_cons_of_mem c hc'))
        turn' queued'
      refine ⟨.handled c s.clock ((handle (.command c)).run s).answer :: deeds, refused, ?_, ?_, ?_⟩
      · rw [List.append_cons]
        exact hshift
      · exact congrArg (c :: ·) hcs
      · exact congrArg (((handle (.command c)).run s).answer :: ·) hanswers

end Shift

end InstancedZones.Service
