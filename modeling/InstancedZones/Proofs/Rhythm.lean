import InstancedZones.Proofs.Driving

/-!
# What a rhythm is moved by

A task is waited for, and the wait is given up when something else comes first; it is
paused and resumed, and told when its runs end. These are its `Move`s, and in any order
of them, at any moments, two kinds alone move the due time: a wait that ends with a run,
and the resumption of a paused task, which puts the next run one interval away.

All others are idle. That is more than that they leave the due time alone: two tasks that
are `Alike` in rhythm, policy, pause and number of runs give the same reports whatever is
done with them afterwards, and an idle move leaves a task alike. So however many waits
are given up, what the task reports later is what it would have reported without them.

The service waits for its sweep anew after each request. No request but those to pause
and to resume the sweep touches it, `Service.sweep_handle`, so a sweep is due when it was
due however many requests come before it. `undisturbed` puts this together.
-/

namespace InstancedZones

namespace Ticker

/-- **What can be done with a task.** -/
inductive Move
  /-- It is paused. -/
  | pause
  /-- It is resumed. -/
  | resume (now : Nat)
  /-- The end of a run is reported. -/
  | recordRunEnd (work : Nat)
  /-- It is waited for from `now` on, and the wait is given up if no run has begun by
  `limit`. -/
  | wait (now limit work : Nat)
deriving DecidableEq

/-- Makes a move: the report on the run, if one has begun. -/
def Move.perform : Move → Action Ticker (Option TickInfo)
  | .pause => do
    Ticker.pause
    return none
  | .resume now => do
    Ticker.resume now
    return none
  | .recordRunEnd work => do
    Ticker.recordRunEnd work
    return none
  | .wait now limit work => do return (← waitUntil now limit work).2

/-- Makes moves, one after the other. -/
def reports (moves : List Move) : Action Ticker (List (Option TickInfo)) :=
  moves.mapM Move.perform

/-- **A move that leaves the rhythm alone**: pausing a task that is paused, resuming one
that is not, the end of a run, and a wait that is given up. -/
def Move.IsIdle (t : Ticker) : Move → Prop
  | .pause => t.paused = true
  | .resume _ => t.paused = false
  | .recordRunEnd _ => True
  | .wait now limit work => ((Move.wait now limit work).perform.run t).answer = none

variable {t t' : Ticker} {now limit work : Nat}

/-! ## One move -/

/-- A wait ends with a run if the task is not paused and the run is due by then. -/
theorem run_waitUntil_of_due {beat : Beat} (hbeat : t.beat? = some beat)
    (hgoing : t.paused = false) (hover : waitOver now beat.due ≤ waitOver now limit) :
    (waitUntil now limit work).run t
      = ⟨(waitOver now beat.due, some (t.tickInfo beat (waitOver now beat.due))),
          t.begun beat (waitOver now beat.due) work,
          (t.begun beat (waitOver now beat.due) work).beginEvents beat
            (t.tickInfo beat (waitOver now beat.due))⟩ := by
  have hnext : (if t.paused then none else t.beat?) = some beat := by rw [hgoing]; exact hbeat
  unfold waitUntil
  rw [Action.run_bind, Action.run_get]
  dsimp only
  rw [hnext]
  dsimp only
  rw [if_pos hover]
  simp [beginRun]

/-- Nothing comes of a wait that is given up before a run is due, nor of one for a task
that is paused or disabled. -/
theorem run_waitUntil_of_waiting
    (h : ∀ beat, t.beat? = some beat →
      t.paused = true ∨ waitOver now limit < waitOver now beat.due) :
    (waitUntil now limit work).run t = ⟨(waitOver now limit, none), t, []⟩ := by
  unfold waitUntil
  rw [Action.run_bind, Action.run_get]
  dsimp only
  cases hnext : (if t.paused then none else t.beat?) with
  | none => rfl
  | some beat =>
    have hgoing : ¬ t.paused = true := by
      intro hpaused
      rw [if_pos hpaused] at hnext
      cases hnext
    rw [if_neg hgoing] at hnext
    have hwaits := (h beat hnext).resolve_left hgoing
    dsimp only
    rw [if_neg (Nat.not_le.mpr hwaits)]
    rfl

/-- **A wait** ends with a run, of a task that is neither paused nor disabled, or nothing
comes of it. -/
theorem wait_cases (t : Ticker) (now limit work : Nat) :
    (((Move.wait now limit work).perform.run t).answer = none ∧
      ((Move.wait now limit work).perform.run t).state = t ∧
      ∀ beat, t.beat? = some beat → t.paused = true ∨ waitOver now limit < waitOver now beat.due) ∨
    ∃ beat, t.beat? = some beat ∧ t.paused = false ∧
      waitOver now beat.due ≤ waitOver now limit ∧
      ((Move.wait now limit work).perform.run t).answer
        = some (t.tickInfo beat (waitOver now beat.due)) ∧
      ((Move.wait now limit work).perform.run t).state
        = t.begun beat (waitOver now beat.due) work := by
  rw [Move.perform, Action.run_bind_pure]
  by_cases hwaits : ∀ beat, t.beat? = some beat →
      t.paused = true ∨ waitOver now limit < waitOver now beat.due
  · rw [run_waitUntil_of_waiting hwaits]
    exact .inl ⟨rfl, rfl, hwaits⟩
  · obtain ⟨beat, hbeat, hover⟩ : ∃ beat, t.beat? = some beat ∧
        ¬ (t.paused = true ∨ waitOver now limit < waitOver now beat.due) := by
      simpa using hwaits
    obtain ⟨hgoing, hover⟩ := not_or.mp hover
    rw [Bool.not_eq_true] at hgoing
    rw [run_waitUntil_of_due hbeat hgoing (Nat.not_lt.mp hover)]
    exact .inr ⟨beat, hbeat, hgoing, Nat.not_lt.mp hover, rfl, rfl⟩

/-- **No run begins while the task is paused or disabled**, whatever is done with it. -/
theorem answer_of_resting (h : t.paused = true ∨ t.isDisabled = true) (m : Move) :
    (m.perform.run t).answer = none := by
  cases m with
  | wait now limit work =>
    rcases wait_cases t now limit work with ⟨hnone, -⟩ | ⟨beat, hbeat, hgoing, -⟩
    · exact hnone
    · rcases h with hpaused | hdisabled
      · rw [hpaused] at hgoing
        cases hgoing
      · rw [isDisabled, hbeat] at hdisabled
        cases hdisabled
  | _ => rfl

/-- **Resuming a paused task** puts its next run one interval away. -/
theorem due?_resume (now : Nat) (hpaused : t.paused = true) :
    ((Move.resume now).perform.run t).state.due? = t.interval?.map (now + ·) := by
  show ((Ticker.resume now).run t).state.due? = _
  rw [state_resume_of_paused now hpaused, due?, interval?, Option.map_map, Option.map_map]
  rfl

/-- **A task is paused by pausing and set going by resuming**, and by nothing else. -/
theorem paused_perform (t : Ticker) :
    (Move.pause.perform.run t).state.paused = true ∧
      (∀ now, ((Move.resume now).perform.run t).state.paused = false) ∧
      ∀ m : Move, m ≠ .pause → (∀ now, m ≠ .resume now) →
        (m.perform.run t).state.paused = t.paused := by
  refine ⟨?_, fun now => ?_, fun m hpause hresume => ?_⟩
  · show (Ticker.pause.run t).state.paused = true
    rw [state_pause]
  · show ((Ticker.resume now).run t).state.paused = false
    cases hpaused : t.paused with
    | true => rw [state_resume_of_paused now hpaused]
    | false => rw [state_resume_of_going now hpaused, hpaused]
  · cases m with
    | pause => exact absurd rfl hpause
    | resume now => exact absurd rfl (hresume now)
    | recordRunEnd work =>
      show ((Ticker.recordRunEnd work).run t).state.paused = t.paused
      obtain ⟨longest, last, hstate⟩ := state_recordRunEnd work t
      rw [hstate]
    | wait now limit work =>
      rcases wait_cases t now limit work with ⟨-, hsame, -⟩ | ⟨beat, -, -, -, -, hbegun⟩
      · rw [hsame]
      · rw [hbegun]
        rfl

/-- Two tasks that are **alike**: nothing that has to do with when they run and what they
report is different. -/
structure Alike (t t' : Ticker) : Prop where
  beat_eq : t'.beat? = t.beat?
  policy_eq : t'.policy = t.policy
  paused_eq : t'.paused = t.paused
  tickCount_eq : t'.tickCount = t.tickCount

theorem Alike.refl (t : Ticker) : Alike t t := ⟨rfl, rfl, rfl, rfl⟩

theorem Alike.due?_eq (h : Alike t t') : t'.due? = t.due? :=
  congrArg (Option.map Beat.due) h.beat_eq

/-- Tasks that are alike report the same runs, and are alike after them. -/
theorem Alike.begun (h : Alike t t') (beat : Beat) (now work : Nat) :
    t'.tickInfo beat now = t.tickInfo beat now ∧
      Alike (t.begun beat now work) (t'.begun beat now work) := by
  have hinfo : t'.tickInfo beat now = t.tickInfo beat now := by
    rw [tickInfo, tickInfo, h.tickCount_eq]
  refine ⟨hinfo, ⟨?_, h.policy_eq, h.paused_eq, congrArg TickInfo.tick hinfo⟩⟩
  show some (beat.after t'.policy now) = some (beat.after t.policy now)
  rw [h.policy_eq]

/-- **Tasks that are alike stay so**, and report the same, whatever move is made. -/
theorem Alike.perform (h : Alike t t') (m : Move) :
    (m.perform.run t').answer = (m.perform.run t).answer ∧
      Alike (m.perform.run t).state (m.perform.run t').state := by
  cases m with
  | pause =>
    refine ⟨rfl, ?_⟩
    show Alike (Ticker.pause.run t).state (Ticker.pause.run t').state
    rw [state_pause, state_pause]
    exact ⟨h.beat_eq, h.policy_eq, rfl, h.tickCount_eq⟩
  | resume now =>
    refine ⟨rfl, ?_⟩
    show Alike ((Ticker.resume now).run t).state ((Ticker.resume now).run t').state
    cases hpaused : t.paused with
    | true =>
      rw [state_resume_of_paused now hpaused,
        state_resume_of_paused now (h.paused_eq.trans hpaused), h.beat_eq]
      exact ⟨rfl, h.policy_eq, rfl, h.tickCount_eq⟩
    | false =>
      rw [state_resume_of_going now hpaused, state_resume_of_going now (h.paused_eq.trans hpaused)]
      exact h
  | recordRunEnd work =>
    refine ⟨rfl, ?_⟩
    show Alike ((Ticker.recordRunEnd work).run t).state ((Ticker.recordRunEnd work).run t').state
    obtain ⟨longest, last, hstate⟩ := state_recordRunEnd work t
    obtain ⟨longest', last', hstate'⟩ := state_recordRunEnd work t'
    rw [hstate, hstate']
    exact ⟨h.beat_eq, h.policy_eq, h.paused_eq, h.tickCount_eq⟩
  | wait now limit work =>
    rcases wait_cases t now limit work with
      ⟨hnone, hsame, hwaits⟩ | ⟨beat, hbeat, hgoing, hover, hrun⟩
    · rcases wait_cases t' now limit work with ⟨hnone', hsame', -⟩ | ⟨beat, hbeat, hgoing, hover, -⟩
      · rw [hnone, hnone', hsame, hsame']
        exact ⟨rfl, h⟩
      · rcases hwaits beat (h.beat_eq ▸ hbeat) with hpaused | hlonger
        · rw [h.paused_eq, hpaused] at hgoing
          cases hgoing
        · exact absurd hover (Nat.not_le.mpr hlonger)
    · rcases wait_cases t' now limit work with ⟨-, -, hwaits⟩ | ⟨beat', hbeat', -, -, hrun'⟩
      · rcases hwaits beat (h.beat_eq.trans hbeat) with hpaused | hlonger
        · rw [← h.paused_eq, hpaused] at hgoing
          cases hgoing
        · exact absurd hover (Nat.not_le.mpr hlonger)
      · obtain rfl := Option.some.inj (hbeat'.symm.trans (h.beat_eq.trans hbeat))
        obtain ⟨hinfo, halike⟩ := h.begun beat' (waitOver now beat'.due) work
        rw [hrun.1, hrun.2, hrun'.1, hrun'.2, hinfo]
        exact ⟨rfl, halike⟩

/-- **An idle move leaves the task alike**, and there is nothing to report. -/
theorem Move.IsIdle.alike {m : Move} (h : m.IsIdle t) :
    (m.perform.run t).answer = none ∧ Alike t (m.perform.run t).state := by
  cases m with
  | pause =>
    refine ⟨rfl, ?_⟩
    show Alike t (Ticker.pause.run t).state
    rw [state_pause]
    exact ⟨rfl, rfl, h.symm, rfl⟩
  | resume now =>
    refine ⟨rfl, ?_⟩
    show Alike t ((Ticker.resume now).run t).state
    rw [state_resume_of_going now h]
    exact .refl t
  | recordRunEnd work =>
    refine ⟨rfl, ?_⟩
    show Alike t ((Ticker.recordRunEnd work).run t).state
    obtain ⟨longest, last, hstate⟩ := state_recordRunEnd work t
    rw [hstate]
    exact ⟨rfl, rfl, rfl, rfl⟩
  | wait now limit work =>
    refine ⟨h, ?_⟩
    rcases wait_cases t now limit work with ⟨-, hsame, -⟩ | ⟨beat, -, -, -, hinfo, -⟩
    · rw [hsame]
      exact .refl t
    · rw [Move.IsIdle, hinfo] at h
      cases h

/-- A move that is idle for a task is idle for all that are alike. -/
theorem Move.IsIdle.of_alike {m : Move} (h : m.IsIdle t) (halike : Alike t t') : m.IsIdle t' := by
  cases m with
  | pause => exact halike.paused_eq.trans h
  | resume now => exact halike.paused_eq.trans h
  | recordRunEnd work => trivial
  | wait now limit work => exact (halike.perform _).1.trans h

/-- **What is not idle** is a wait that ends with a run, pausing, or resuming a paused
task; and pausing does not move the due time. -/
theorem due?_perform_eq_or (t : Ticker) (m : Move) :
    (m.perform.run t).state.due? = t.due? ∨
    (∃ info, (m.perform.run t).answer = some info) ∨
    ∃ now every, m = .resume now ∧ t.paused = true ∧ t.interval? = some every ∧
      (m.perform.run t).state.due? = some (now + every) := by
  cases m with
  | pause =>
    refine .inl ?_
    show (Ticker.pause.run t).state.due? = _
    rw [state_pause]
    rfl
  | resume now =>
    cases hpaused : t.paused with
    | false =>
      have hidle : (Move.resume now).IsIdle t := hpaused
      exact .inl hidle.alike.2.due?_eq
    | true =>
      rw [due?_resume now hpaused]
      cases hinterval : t.interval? with
      | none =>
        refine .inl ?_
        rw [interval?, Option.map_eq_none_iff] at hinterval
        rw [due?, hinterval]
        rfl
      | some every => exact .inr (.inr ⟨now, every, rfl, rfl, rfl, rfl⟩)
  | recordRunEnd work =>
    have hidle : (Move.recordRunEnd work).IsIdle t := trivial
    exact .inl hidle.alike.2.due?_eq
  | wait now limit work =>
    cases hanswer : ((Move.wait now limit work).perform.run t).answer with
    | none =>
      have hidle : (Move.wait now limit work).IsIdle t := hanswer
      exact .inl hidle.alike.2.due?_eq
    | some info => exact .inr (.inl ⟨info, rfl⟩)

/-! ## Many moves -/

theorem run_reports_cons (m : Move) (moves : List Move) (t : Ticker) :
    ((reports (m :: moves)).run t).answer
        = (m.perform.run t).answer :: ((reports moves).run (m.perform.run t).state).answer ∧
      ((reports (m :: moves)).run t).state
        = ((reports moves).run (m.perform.run t).state).state := by
  unfold reports
  rw [List.mapM_cons, Action.run_bind]
  exact ⟨rfl, rfl⟩

/-- **Tasks that are alike report the same** in the course of any moves. -/
theorem Alike.reports (h : Alike t t') (moves : List Move) :
    ((Ticker.reports moves).run t').answer = ((Ticker.reports moves).run t).answer ∧
      Alike ((Ticker.reports moves).run t).state ((Ticker.reports moves).run t').state := by
  induction moves generalizing t t' with
  | nil => exact ⟨rfl, h⟩
  | cons m moves ih =>
    obtain ⟨hanswer, hafter⟩ := h.perform m
    obtain ⟨hanswers, hlast⟩ := ih hafter
    obtain ⟨hcons, hstate⟩ := run_reports_cons m moves t
    obtain ⟨hcons', hstate'⟩ := run_reports_cons m moves t'
    rw [hcons, hcons', hstate, hstate', hanswer, hanswers]
    exact ⟨rfl, hlast⟩

/-- **Any number of idle moves leave the task alike.** -/
theorem alike_of_idle {idles : List Move} (h : ∀ m ∈ idles, m.IsIdle t) :
    Alike t ((reports idles).run t).state := by
  induction idles generalizing t with
  | nil => exact .refl t
  | cons m idles ih =>
    have hfirst := (h m List.mem_cons_self).alike.2
    have hrest := ih fun m' hm' => (h m' (List.mem_cons_of_mem _ hm')).of_alike hfirst
    rw [(run_reports_cons m idles t).2]
    exact ⟨hrest.beat_eq.trans hfirst.beat_eq, hrest.policy_eq.trans hfirst.policy_eq,
      hrest.paused_eq.trans hfirst.paused_eq, hrest.tickCount_eq.trans hfirst.tickCount_eq⟩

/-- What one move adds to the number of runs. -/
theorem counts_perform (t : Ticker) (m : Move) :
    (m.perform.run t).state.tickCount
        = t.tickCount + (if (m.perform.run t).answer.isSome then 1 else 0) ∧
      (m.perform.run t).state.metrics.runs
        = t.metrics.runs + (if (m.perform.run t).answer.isSome then 1 else 0) := by
  cases m with
  | pause =>
    show (Ticker.pause.run t).state.tickCount = _ ∧ (Ticker.pause.run t).state.metrics.runs = _
    rw [state_pause]
    exact ⟨rfl, rfl⟩
  | resume now =>
    show ((Ticker.resume now).run t).state.tickCount = _ ∧
      ((Ticker.resume now).run t).state.metrics.runs = _
    cases hpaused : t.paused with
    | true =>
      rw [state_resume_of_paused now hpaused]
      exact ⟨rfl, rfl⟩
    | false =>
      rw [state_resume_of_going now hpaused]
      exact ⟨rfl, rfl⟩
  | recordRunEnd work =>
    show ((Ticker.recordRunEnd work).run t).state.tickCount = _ ∧
      ((Ticker.recordRunEnd work).run t).state.metrics.runs = _
    obtain ⟨longest, last, hstate⟩ := state_recordRunEnd work t
    rw [hstate]
    exact ⟨rfl, rfl⟩
  | wait now limit work =>
    rcases wait_cases t now limit work with ⟨hnone, hsame, -⟩ | ⟨beat, -, -, -, hinfo, hbegun⟩
    · rw [hnone, hsame]
      exact ⟨rfl, rfl⟩
    · rw [hinfo, hbegun]
      exact ⟨rfl, rfl⟩

/-- **Runs are counted twice over**, by their number and among what has been counted, and
both times each of them once. -/
theorem counts_reports (t : Ticker) (moves : List Move) :
    ((reports moves).run t).state.tickCount
        = t.tickCount + ((reports moves).run t).answer.countP Option.isSome ∧
      ((reports moves).run t).state.metrics.runs
        = t.metrics.runs + ((reports moves).run t).answer.countP Option.isSome := by
  induction moves generalizing t with
  | nil => exact ⟨rfl, rfl⟩
  | cons m moves ih =>
    obtain ⟨hticks, hruns⟩ := ih (m.perform.run t).state
    obtain ⟨htick, hrun⟩ := counts_perform t m
    obtain ⟨hcons, hstate⟩ := run_reports_cons m moves t
    rw [hcons, hstate, hticks, hruns, htick, hrun, List.countP_cons]
    omega

end Ticker

/-! ## The sweep of the service -/

namespace Service

variable {W α : Type} [World W]

/-- An operation of the registry does not touch the sweep, nor does the end of the
service. -/
theorem sweep_perform {c : Command} (hpause : c ≠ .pauseSweep) (hresume : c ≠ .resumeSweep)
    (s : Service W) : ((perform c).run s).state.sweep = s.sweep := by
  cases hc : c.operation? (W := W) s.clock with
  | some x => rw [run_perform_of_operation hc]
  | none =>
    cases c with
    | pauseSweep => exact absurd rfl hpause
    | resumeSweep => exact absurd rfl hresume
    | sweepMetrics => rfl
    | shutdown => rw [(perform_shutdown s).2]
    | _ => cases hc

/-- **No request touches the sweep** but those to pause and to resume it. -/
theorem sweep_handle {q : Request W α} (hpause : q ≠ .command .pauseSweep)
    (hresume : q ≠ .command .resumeSweep) (s : Service W) :
    ((handle q).run s).state.sweep = s.sweep := by
  cases hrunning : s.running with
  | true =>
    cases q with
    | command c =>
      rw [(run_handle_of_running c hrunning).2]
      exact sweep_perform (fun h => hpause (congrArg _ h)) (fun h => hresume (congrArg _ h)) s
    | job run =>
      unfold handle
      rw [Action.run_bind_of_run (Action.run_get s), if_pos hrunning]
      rfl
    | broken =>
      unfold handle
      rw [Action.run_bind_of_run (Action.run_get s), if_pos hrunning]
      rfl
  | false =>
    unfold handle
    rw [Action.run_bind_of_run (Action.run_get s), hrunning]
    cases q with
    | command c => cases c <;> rfl
    | job | broken => rfl

/-- **A stretch of work without a sweep leaves the sweep as it is**, unless it is paused
or resumed. -/
theorem Shift.sweep_eq {first s : Service W} {log : List Deed} (shift : Shift first log s)
    (h : ∀ deed ∈ log, ∃ c now answer, deed = .handled c now answer ∧
      c ≠ .pauseSweep ∧ c ≠ .resumeSweep) : s.sweep = first.sweep := by
  induction shift with
  | start => rfl
  | @command log s c before returns ih =>
    obtain ⟨c', now, answer, hdeed, hpause, hresume⟩ :=
      h _ (List.mem_append_right _ List.mem_cons_self)
    obtain ⟨rfl, -, -⟩ := Deed.handled.inj hdeed
    rw [sweep_handle (fun heq => hpause (Request.command.inj heq))
      (fun heq => hresume (Request.command.inj heq))]
    exact ih fun deed hmem => h deed (List.mem_append_left _ hmem)
  | sweep before running due ih =>
    obtain ⟨c, now, answer, hdeed, -⟩ := h _ (List.mem_append_right _ List.mem_cons_self)
    cases hdeed
  | time clock elapsed before later ih => exact ih h

end Service

namespace Ticker

/-- **What a rhythm is moved by.** No run begins while a task is paused or disabled, and
it is paused from the moment it is paused until it is resumed. The due time changes by a
wait that ends with a run, or when a paused task with an interval is resumed, and then it is
one interval from that moment. Any number of idle moves leave the due time, all that is
reported later and all later due times as they are. A task has as many runs as waits have
ended with one, by both counts; and as long as it is not spent, the clock goes on to its next
run and all that it counts fits 64 bits. And of all requests to the service only those to
pause and to resume the sweep touch it, so a stretch of work without a sweep and without
these, however long, leaves it due when it was. -/
theorem undisturbed {W α : Type} [World W] :
    (∀ (t : Ticker) (m : Move), t.paused = true ∨ t.isDisabled = true →
      (m.perform.run t).answer = none) ∧
    (∀ t : Ticker, (Move.pause.perform.run t).state.paused = true ∧
      (∀ now, ((Move.resume now).perform.run t).state.paused = false) ∧
      ∀ m : Move, m ≠ .pause → (∀ now, m ≠ .resume now) →
        (m.perform.run t).state.paused = t.paused) ∧
    (∀ (t : Ticker) (m : Move), (m.perform.run t).state.due? = t.due? ∨
      (∃ info, (m.perform.run t).answer = some info) ∨
      ∃ now every, m = .resume now ∧ t.paused = true ∧ t.interval? = some every ∧
        (m.perform.run t).state.due? = some (now + every)) ∧
    (∀ (t : Ticker) now, t.paused = true →
      ((Move.resume now).perform.run t).state.due? = t.interval?.map (now + ·)) ∧
    (∀ (t : Ticker) idles later, (∀ m ∈ idles, m.IsIdle t) →
      ((reports idles).run t).state.due? = t.due? ∧
      ((reports later).run ((reports idles).run t).state).answer
        = ((reports later).run t).answer ∧
      ((reports later).run ((reports idles).run t).state).state.due?
        = ((reports later).run t).state.due?) ∧
    (∀ name c started delay moves,
      ((reports moves).run (.start name c started delay)).state.tickCount
          = ((reports moves).run (.start name c started delay)).answer.countP Option.isSome ∧
        ((reports moves).run (.start name c started delay)).state.metrics.runs
          = ((reports moves).run (.start name c started delay)).answer.countP Option.isSome) ∧
    (∀ t : Ticker, t.isSpent = false ↔ t.Lasts) ∧
    (∀ (s : Service W) (q : Service.Request W α), q ≠ .command .pauseSweep →
      q ≠ .command .resumeSweep → ((Service.handle q).run s).state.sweep = s.sweep) ∧
    (∀ (first s : Service W) log, Service.Shift first log s →
      (∀ deed ∈ log, ∃ c now answer, deed = .handled c now answer ∧
        c ≠ .pauseSweep ∧ c ≠ .resumeSweep) →
      s.sweep.due? = first.sweep.due?) := by
  refine ⟨fun t m h => answer_of_resting h m, paused_perform, due?_perform_eq_or,
    fun t now => due?_resume now, fun t idles later h => ?_, fun name c started delay moves => ?_,
    fun t => isSpent_eq_false_iff, fun s q hpause hresume => Service.sweep_handle hpause hresume s,
    fun first s log shift h => congrArg due? (shift.sweep_eq h)⟩
  · have halike := alike_of_idle h
    obtain ⟨hanswers, hlast⟩ := halike.reports later
    exact ⟨halike.due?_eq, hanswers, hlast.due?_eq⟩
  · obtain ⟨hticks, hruns⟩ := counts_reports (.start name c started delay) moves
    exact ⟨hticks.trans (Nat.zero_add _), hruns.trans (Nat.zero_add _)⟩

/-- A task of five seconds is waited for twice, and both waits are given up; it is resumed
without having been paused, and the end of a run is reported that never began. It is due
after five seconds all the same, and that is when it runs. Another such task is paused, and
nothing comes of a wait for it; when it is resumed after seven seconds, it is due after
twelve. And the sweep of a service that has been asked to open an instance, three seconds
after its start, is due as before. -/
theorem waits_given_up_undisturbed :
    (let t := start "sweep" (Cadence.every (.ofSecs 5)) 0 0
     let idles := [Move.wait 0 1000000000 0, .resume 1000000000, .recordRunEnd 7,
       .wait 1000000000 4999999999 0]
     (∀ m ∈ idles, m.IsIdle t) ∧ ((reports idles).run t).state.due? = some 5000000000 ∧
       ((reports [.wait 4999999999 6000000000 0]).run ((reports idles).run t).state).answer
         = [some ⟨1, 0, 0⟩]) ∧
    (let t := (Move.pause.perform.run (start "sweep" (Cadence.every (.ofSecs 5)) 0 0)).state
     t.paused = true ∧ ((Move.wait 0 6000000000 0).perform.run t).answer = none ∧
       ((Move.resume 7000000000).perform.run t).state.paused = false ∧
       ((Move.resume 7000000000).perform.run t).state.due? = some 12000000000) ∧
    ∃ log s, Service.Shift (Service.start .usual MemoryWorld.trio .epoch) log s ∧
      s.realm.registry.ids = [⟨1⟩] ∧ s.sweep.due? = some 5000000000 := by
  obtain ⟨hresting, hpausing, -, hresumed, hidling, -, -, -, hsweep⟩ :=
    undisturbed (W := MemoryWorld) (α := Empty)
  refine ⟨?_, ?_, ?_⟩
  · intro t idles
    have hidle : ∀ m ∈ idles, m.IsIdle t := by
      simp only [idles, List.forall_mem_cons]
      exact ⟨rfl, rfl, trivial, rfl, by simp⟩
    obtain ⟨hdue, hlater, -⟩ := hidling t idles [.wait 4999999999 6000000000 0] hidle
    exact ⟨hidle, hdue, hlater.trans (by rfl)⟩
  · intro t
    have hpaused : t.paused = true := (hpausing _).1
    exact ⟨hpaused, hresting t _ (.inl hpaused), (hpausing t).2.1 _,
      (hresumed t 7000000000 hpaused).trans (by decide +kernel)⟩
  · have started : Service.Shift (Service.start .usual MemoryWorld.trio .epoch) [] _ := .start
    have opened := (started.time .epoch 3000000000 (Nat.zero_le _)).command (.create .plain) (by
      rintro - _ ⟨⟩ _ _
      exact ⟨0, by decide +kernel⟩)
    refine ⟨_, _, opened, by decide +kernel, ?_⟩
    refine (hsweep _ _ _ opened ?_).trans (by decide +kernel)
    intro deed hdeed
    rw [List.nil_append, List.mem_singleton] at hdeed
    exact ⟨_, _, _, hdeed, by decide, by decide⟩

end Ticker

end InstancedZones
