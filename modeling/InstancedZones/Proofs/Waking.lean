import InstancedZones.Ticker

/-!
# What moves a repeating task

The operations of a task, each by what it leaves behind. A task that is asked before
its wait is over, or while it is paused or disabled, stays as it is. A run that begins
moves the due time and is counted; resuming moves it if the task was paused; pausing
and ending a run do not touch it.

A task that is not spent is one that the clock and the counts can hold, `Lasts`.
-/

namespace InstancedZones.Ticker

variable {t : Ticker} {beat : Beat} {now work : Nat}

/-- When the next run is due. -/
def due? (t : Ticker) : Option Nat := t.beat?.map Beat.due

/-- A wait is over as soon as the moment it is for has come, or the horizon. -/
theorem waitOver_le_iff {moment : Nat} : waitOver now moment ≤ now ↔ min moment horizon ≤ now := by
  rw [waitOver, Nat.max_le]
  exact and_iff_right (Nat.le_refl now)

theorem le_waitOver (now moment : Nat) : now ≤ waitOver now moment := Nat.le_max_left _ _

/-- **A run begins** when the wait of a task that is not paused is over. -/
theorem run_wake_of_due (hbeat : t.beat? = some beat) (hgoing : t.paused = false)
    (hdue : min beat.due horizon ≤ now) :
    (wake now work).run t
      = ⟨some (t.tickInfo beat now), t.begun beat now work,
          (t.begun beat now work).beginEvents beat (t.tickInfo beat now)⟩ := by
  have hover : ¬ (t.paused || decide (now < waitOver now beat.due)) = true := by
    rw [hgoing, Bool.false_or, decide_eq_true_iff, Nat.not_lt]
    exact waitOver_le_iff.mpr hdue
  unfold wake
  rw [Action.run_bind, Action.run_get]
  dsimp only
  rw [hbeat]
  dsimp only
  rw [if_neg hover]
  simp [beginRun]

/-- **When the task says that it wakes up, it does.** -/
theorem wake_of_nextWake? (work : Nat) {moment : Nat} (h : t.nextWake? now = some moment) :
    now ≤ moment ∧ ∃ info, ((wake moment work).run t).answer = some info := by
  unfold nextWake? at h
  split at h
  · cases h
  · next hgoing =>
    obtain ⟨beat, hbeat, rfl⟩ := Option.map_eq_some_iff.mp h
    refine ⟨le_waitOver _ _, t.tickInfo beat (waitOver now beat.due), ?_⟩
    have hdue : min beat.due horizon ≤ waitOver now beat.due := Nat.le_max_right _ _
    rw [run_wake_of_due hbeat (Bool.eq_false_iff.mpr hgoing) hdue]

theorem state_pause (t : Ticker) : (pause.run t).state = { t with paused := true } := by
  unfold pause
  rw [Action.run_bind, Action.run_get]
  dsimp only
  split
  · next hpaused => exact congrArg (fun paused => { t with paused }) hpaused
  · rfl

/-- **Resuming** a task that is paused puts its next run one interval away. -/
theorem state_resume_of_paused (now : Nat) (hpaused : t.paused = true) :
    ((resume now).run t).state
      = { t with paused := false, beat? := t.beat?.map (Beat.resumed · now) } := by
  unfold resume
  rw [Action.run_bind, Action.run_get]
  dsimp only
  rw [if_pos hpaused]
  split <;> rfl

theorem state_resume_of_going (now : Nat) (hgoing : t.paused = false) :
    ((resume now).run t).state = t := by
  unfold resume
  rw [Action.run_bind, Action.run_get]
  dsimp only
  rw [if_neg (Bool.eq_false_iff.mp hgoing)]
  rfl

/-- **Ending a run** changes what is known of how long runs take, and nothing else. -/
theorem state_recordRunEnd (work : Nat) (t : Ticker) :
    ∃ longest last, ((recordRunEnd work).run t).state
      = { t with
          runStart? := none
          metrics := { t.metrics with longestRun := longest, lastRun := last } } := by
  unfold recordRunEnd
  rw [Action.run_bind, Action.run_get]
  dsimp only
  cases hstart : t.runStart? with
  | none =>
    refine ⟨t.metrics.longestRun, t.metrics.lastRun, ?_⟩
    exact congrArg (fun runStart? => { t with runStart? }) hstart
  | some began =>
    refine ⟨max t.metrics.longestRun (work - began), work - began, ?_⟩
    dsimp only
    rw [Action.run_bind]
    split
    · rfl
    · split <;> rfl

/-! ## When a task is spent -/

/-- **The clock and the counts can hold the task**: it is due before the clock ends, and all
that is summed up over its runs fits 64 bits. -/
structure Lasts (t : Ticker) : Prop where
  /-- The clock goes on to the next run. -/
  due_lt : ∀ due, t.due? = some due → due < clockEnd
  /-- The runs are numbered in 64 bits. -/
  tickCount_lt : t.tickCount < 18446744073709551616
  /-- So are they counted. -/
  runs_lt : t.metrics.runs < 18446744073709551616
  /-- So are the late ones. -/
  late_lt : t.metrics.late < 18446744073709551616
  /-- So are those that were missed. -/
  missed_lt : t.metrics.missed < 18446744073709551616

/-- **A task is spent** as soon as the clock or a count cannot hold it. -/
theorem isSpent_eq_false_iff : t.isSpent = false ↔ t.Lasts := by
  have hclock : t.isTimeless = false ↔ ∀ due, t.due? = some due → due < clockEnd := by
    rw [isTimeless, due?]
    cases t.beat? <;> simp
  simp only [isSpent, isUncounted, isOverfull, Bool.or_eq_false_iff, decide_eq_false_iff_not,
    Nat.not_le, hclock]
  constructor
  · rintro ⟨⟨hdue, ⟨hticks, hruns⟩, hlate⟩, hmissed⟩
    exact ⟨hdue, hticks, hruns, hlate, hmissed⟩
  · rintro ⟨hdue, hticks, hruns, hlate, hmissed⟩
    exact ⟨⟨hdue, ⟨hticks, hruns⟩, hlate⟩, hmissed⟩

end InstancedZones.Ticker
