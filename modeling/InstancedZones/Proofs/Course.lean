import InstancedZones.Proofs.Waking
import Mathlib.Tactic.Ring

/-!
# What a repeating task counts

A `Course` is a history of a task that is started without a delay: runs that begin on
time or late, pauses and resumptions, runs that end, and time that passes, in any order
and at any moments. Two kinds of events move the due time, runs that begin and
resumptions of the paused task; they are the `Turn`s of the course.

A run that begins late counts the whole intervals since it was due as missed. A task
that skips what it missed then goes on from there, so no interval is counted twice: runs
and missed runs together are never more than the intervals that have passed. A task that
keeps its rhythm goes on from the due time. The runs it has just counted as missed are
still to come, and unless the task is resumed in between, each of them is counted once
more when it does; that is all that is counted twice, and it is counted for every such
run, `Course.counts_each_once_iff`.
-/

namespace InstancedZones.Ticker

/-- What moves the due time of a task. -/
inductive Turn
  /-- A run began. -/
  | ran (now : Nat) (info : TickInfo)
  /-- The paused task was resumed. -/
  | resumed (now : Nat)
deriving DecidableEq

/-- **The histories of a task**: started when it was `started`, it has taken the turns on
the list, the latest first, it is now the moment given, and the task is the last
argument. -/
inductive Course (name : String) (c : Cadence) (started : Nat) : List Turn → Nat → Ticker → Prop
  /-- The task was just started. -/
  | start : Course name c started [] started (.start name c started 0)
  /-- Time passed, and nothing came of the waits that began and were given up. -/
  | pass {log : List Turn} {now : Nat} {t : Ticker} (later : Nat)
      (before : Course name c started log now t) (le : now ≤ later) :
      Course name c started log later t
  /-- A run began, on time or late. -/
  | run {log : List Turn} {now : Nat} {t : Ticker} {beat : Beat} (work : Nat)
      (before : Course name c started log now t) (hbeat : t.beat? = some beat)
      (going : t.paused = false) (due : beat.due ≤ now) :
      Course name c started (.ran now (t.tickInfo beat now) :: log) now
        ((wake now work).run t).state
  /-- The task was paused. -/
  | pause {log : List Turn} {now : Nat} {t : Ticker} (before : Course name c started log now t) :
      Course name c started log now (Ticker.pause.run t).state
  /-- The task was resumed. -/
  | resume {log : List Turn} {now : Nat} {t : Ticker} (before : Course name c started log now t) :
      Course name c started (if t.paused then .resumed now :: log else log) now
        ((Ticker.resume now).run t).state
  /-- The end of a run was reported. -/
  | ended {log : List Turn} {now : Nat} {t : Ticker} (work : Nat)
      (before : Course name c started log now t) :
      Course name c started log now ((recordRunEnd work).run t).state

/-! ## Where the runs are -/

/-- The first run is due one interval after the start. -/
theorem due_startBeat {c : Cadence} {started : Nat} {beat : Beat}
    (h : startBeat c started 0 = some beat) : beat.due = started + beat.every := by
  unfold startBeat at h
  split at h
  · cases h
  · split at h
    · rw [← Option.some.inj h]
      rfl
    · cases h

theorem every_after (beat : Beat) (policy : LatePolicy) (now : Nat) :
    (beat.after policy now).every = beat.every := by
  cases policy <;> rfl

/-- One more run, with those it counts as missed. -/
theorem counts_begun (runs missed more every : Nat) :
    (runs + 1 + (missed + more)) * every = (runs + missed + 1) * every + more * every := by
  ring

/-! ## Counting -/

/-- The moment of the latest turn. -/
def latest (started : Nat) : List Turn → Nat
  | [] => started
  | .ran now _ :: _ => now
  | .resumed now :: _ => now

/-- The runs that the latest turn has counted as missed and that are still to come. -/
def owed : LatePolicy → List Turn → Nat
  | .fixed, .ran _ info :: _ => info.missed.toNat
  | _, _ => 0

/-- The runs counted as missed that have come nevertheless. -/
def recounted (policy : LatePolicy) : List Turn → Nat
  | [] => 0
  | .ran _ _ :: log => recounted policy log + owed policy log
  | .resumed _ :: log => recounted policy log

@[simp] theorem owed_nil (policy : LatePolicy) : owed policy [] = 0 := by
  cases policy <;> rfl

@[simp] theorem owed_resumed (policy : LatePolicy) (now : Nat) (log : List Turn) :
    owed policy (.resumed now :: log) = 0 := by
  cases policy <;> rfl

theorem recounted_skip (log : List Turn) : recounted .skip log = 0 := by
  induction log with
  | nil => rfl
  | cons turn log ih =>
    cases turn with
    | ran => exact ih
    | resumed => exact ih

/-- **What a task has counted**, in intervals: it is ahead of the latest turn, and the
next run behind the due time, by no more than what has been and what will be counted
twice. -/
structure Tally (policy : LatePolicy) (started : Nat) (log : List Turn) (now : Nat)
    (t : Ticker) : Prop where
  /-- The latest turn is not before the start. -/
  started_le : started ≤ latest started log
  /-- The latest turn is not to come. -/
  latest_le : latest started log ≤ now
  /-- The policy is the one the task was started with. -/
  policy_eq : t.policy = policy
  /-- What has been counted. -/
  counted : ∀ beat, t.beat? = some beat →
    (t.metrics.runs + t.metrics.missed) * beat.every + started
      ≤ latest started log + recounted policy log * beat.every
  /-- What will have been counted when the next run begins on time. -/
  ahead : ∀ beat, t.beat? = some beat →
    (t.metrics.runs + t.metrics.missed + 1) * beat.every + started
      ≤ beat.due + (recounted policy log + owed policy log) * beat.every

namespace Tally

variable {policy : LatePolicy} {started now work : Nat} {log : List Turn} {t : Ticker}

theorem start (name : String) (c : Cadence) (started : Nat) :
    Tally c.policy started [] started (.start name c started 0) where
  started_le := Nat.le_refl started
  latest_le := Nat.le_refl started
  policy_eq := rfl
  counted beat _ := by
    show (0 + 0) * beat.every + started ≤ started + 0 * beat.every
    omega
  ahead beat hbeat := by
    have hdue := due_startBeat hbeat
    rw [owed_nil]
    show (0 + 0 + 1) * beat.every + started ≤ beat.due + (0 + 0) * beat.every
    omega

/-- A run that begins counts no more than the intervals since it was due. -/
theorem missed_mul_le {beat : Beat} (due : beat.due ≤ now) :
    (t.tickInfo beat now).missed.toNat * beat.every + beat.due ≤ now := by
  have hmissed : (t.tickInfo beat now).missed.toNat ≤ (now - beat.due) / beat.every := by
    show (UInt64.ofNat ((now - beat.due) / beat.every)).toNat ≤ _
    rw [UInt64.toNat_ofNat']
    exact Nat.mod_le _ _
  have hfloor := Nat.div_mul_le_self (now - beat.due) beat.every
  have hmul := Nat.mul_le_mul_right beat.every hmissed
  omega

/-- **A run that begins** has been counted ahead. What it counts as missed lies between
the due time and now, and is owed if the rhythm is kept. -/
theorem begun (h : Tally policy started log now t) {beat : Beat} (hbeat : t.beat? = some beat)
    (due : beat.due ≤ now) :
    Tally policy started (.ran now (t.tickInfo beat now) :: log) now (t.begun beat now work) := by
  have hahead := h.ahead beat hbeat
  have hmissed := missed_mul_le (t := t) due
  have hpolicy := h.policy_eq
  refine ⟨Nat.le_trans h.started_le h.latest_le, Nat.le_refl now, hpolicy,
    fun beat' hbeat' => ?_, fun beat' hbeat' => ?_⟩
  · obtain rfl := Option.some.inj hbeat'
    rw [every_after]
    show (t.metrics.runs + 1 + (t.metrics.missed + (t.tickInfo beat now).missed.toNat)) * beat.every
      + started ≤ now + (recounted policy log + owed policy log) * beat.every
    rw [counts_begun]
    omega
  · obtain rfl := Option.some.inj hbeat'
    rw [every_after, hpolicy]
    show (t.metrics.runs + 1 + (t.metrics.missed + (t.tickInfo beat now).missed.toNat) + 1)
      * beat.every + started ≤ _
    rw [Nat.add_mul _ 1, counts_begun]
    cases policy with
    | skip =>
      show _ ≤ now + beat.every + (recounted .skip log + owed .skip log + 0) * beat.every
      rw [Nat.add_zero (recounted .skip log + owed .skip log)]
      omega
    | fixed =>
      show _ ≤ beat.due + beat.every
        + (recounted .fixed log + owed .fixed log + (t.tickInfo beat now).missed.toNat) * beat.every
      rw [Nat.add_mul _ (t.tickInfo beat now).missed.toNat]
      omega

theorem resumed (h : Tally policy started log now t) :
    Tally policy started (.resumed now :: log) now
      { t with paused := false, beat? := t.beat?.map (Beat.resumed · now) } := by
  refine ⟨Nat.le_trans h.started_le h.latest_le, Nat.le_refl now, h.policy_eq,
    fun beat' hbeat' => ?_, fun beat' hbeat' => ?_⟩
  · obtain ⟨beat, hbeat, rfl⟩ := Option.map_eq_some_iff.mp hbeat'
    exact Nat.le_trans (h.counted beat hbeat) (Nat.add_le_add_right h.latest_le _)
  · obtain ⟨beat, hbeat, rfl⟩ := Option.map_eq_some_iff.mp hbeat'
    have hcounted := h.counted beat hbeat
    have hle := h.latest_le
    rw [owed_resumed]
    show (t.metrics.runs + t.metrics.missed + 1) * beat.every + started
      ≤ now + beat.every + (recounted policy log + 0) * beat.every
    rw [Nat.add_mul _ 1, Nat.add_zero]
    omega

/-- What does not touch the rhythm and the counts changes nothing. -/
theorem same (h : Tally policy started log now t) {t' : Ticker} (hbeat : t'.beat? = t.beat?)
    (hpolicy : t'.policy = t.policy) (hruns : t'.metrics.runs = t.metrics.runs)
    (hmissed : t'.metrics.missed = t.metrics.missed) : Tally policy started log now t' where
  started_le := h.started_le
  latest_le := h.latest_le
  policy_eq := hpolicy.trans h.policy_eq
  counted := by rw [hbeat, hruns, hmissed]; exact h.counted
  ahead := by rw [hbeat, hruns, hmissed]; exact h.ahead

end Tally

/-- **The tally of every course.** -/
theorem Course.tally {name : String} {c : Cadence} {started now : Nat} {log : List Turn}
    {t : Ticker} (course : Course name c started log now t) :
    Tally c.policy started log now t := by
  induction course with
  | start => exact .start name c started
  | pass later before le ih =>
    exact ⟨ih.started_le, Nat.le_trans ih.latest_le le, ih.policy_eq, ih.counted, ih.ahead⟩
  | run work before hbeat going due ih =>
    rw [run_wake_of_due hbeat going (Nat.le_trans (Nat.min_le_left _ _) due)]
    exact ih.begun hbeat due
  | pause before ih =>
    rw [state_pause]
    exact ih.same rfl rfl rfl rfl
  | @resume log now t before ih =>
    cases hpaused : t.paused with
    | true =>
      rw [state_resume_of_paused now hpaused]
      exact ih.resumed
    | false =>
      rw [state_resume_of_going now hpaused]
      exact ih
  | @ended log now t work before ih =>
    obtain ⟨longest, last, hstate⟩ := state_recordRunEnd work t
    rw [hstate]
    exact ih.same rfl rfl rfl rfl

/-! ## When a course comes to its end -/

/-- Whether a turn is a run. -/
def Turn.isRun : Turn → Bool
  | .ran _ _ => true
  | .resumed _ => false

/-- How many runs a turn has counted as missed. -/
def Turn.missed : Turn → Nat
  | .ran _ info => info.missed.toNat
  | .resumed _ => 0

/-- **What is summed up over the runs**: their number, by both counts, the late ones of them,
and those that each has counted as missed. -/
structure Counted (log : List Turn) (t : Ticker) : Prop where
  tickCount_eq : t.tickCount = log.countP Turn.isRun
  runs_eq : t.metrics.runs = log.countP Turn.isRun
  late_le : t.metrics.late ≤ t.metrics.runs
  missed_eq : t.metrics.missed = (log.map Turn.missed).sum

namespace Counted

variable {now work : Nat} {log : List Turn} {t : Ticker}

theorem begun (h : Counted log t) (beat : Beat) :
    Counted (.ran now (t.tickInfo beat now) :: log) (t.begun beat now work) where
  tickCount_eq := by
    rw [List.countP_cons_of_pos rfl, ← h.tickCount_eq]
    rfl
  runs_eq := by
    rw [List.countP_cons_of_pos rfl, ← h.runs_eq]
    rfl
  late_le := by
    have hlate := h.late_le
    show t.metrics.late + (if countsAsLate beat (t.tickInfo beat now) then 1 else 0)
      ≤ t.metrics.runs + 1
    split <;> omega
  missed_eq := by
    show t.metrics.missed + (t.tickInfo beat now).missed.toNat
      = (t.tickInfo beat now).missed.toNat + (log.map Turn.missed).sum
    rw [h.missed_eq, Nat.add_comm]

/-- What does not touch the counts changes nothing. -/
theorem same (h : Counted log t) {t' : Ticker} (hticks : t'.tickCount = t.tickCount)
    (hruns : t'.metrics.runs = t.metrics.runs) (hlate : t'.metrics.late = t.metrics.late)
    (hmissed : t'.metrics.missed = t.metrics.missed) : Counted log t' where
  tickCount_eq := hticks.trans h.tickCount_eq
  runs_eq := hruns.trans h.runs_eq
  late_le := by rw [hlate, hruns]; exact h.late_le
  missed_eq := hmissed.trans h.missed_eq

/-- **The task is not spent** just in case the clock goes on to the next run, and the runs
and the missed ones fit their counts. -/
theorem isSpent_eq_false_iff (h : Counted log t) :
    t.isSpent = false ↔ (∀ due, t.due? = some due → due < clockEnd) ∧
      t.metrics.runs < 18446744073709551616 ∧ t.metrics.missed < 18446744073709551616 := by
  have hticks := h.tickCount_eq.trans h.runs_eq.symm
  rw [Ticker.isSpent_eq_false_iff]
  constructor
  · intro hlasts
    exact ⟨hlasts.due_lt, hlasts.runs_lt, hlasts.missed_lt⟩
  · rintro ⟨hdue, hruns, hmissed⟩
    exact ⟨hdue, hticks ▸ hruns, hruns, Nat.lt_of_le_of_lt h.late_le hruns, hmissed⟩

end Counted

/-- **The sums of every course.** -/
theorem Course.sums {name : String} {c : Cadence} {started now : Nat} {log : List Turn}
    {t : Ticker} (course : Course name c started log now t) : Counted log t := by
  induction course with
  | start => exact ⟨rfl, rfl, Nat.le_refl 0, rfl⟩
  | pass later before le ih => exact ih
  | @run log now t beat work before hbeat going due ih =>
    rw [run_wake_of_due hbeat going (Nat.le_trans (Nat.min_le_left _ _) due)]
    exact ih.begun beat
  | pause before ih =>
    rw [state_pause]
    exact ih.same rfl rfl rfl rfl
  | @resume log now t before ih =>
    cases hpaused : t.paused with
    | true =>
      rw [state_resume_of_paused now hpaused, if_pos rfl]
      have hresumed : Counted (.resumed now :: log) t :=
        ⟨ih.tickCount_eq, ih.runs_eq, ih.late_le, ih.missed_eq.trans (Nat.zero_add _).symm⟩
      exact hresumed.same rfl rfl rfl rfl
    | false =>
      rw [state_resume_of_going now hpaused]
      exact ih
  | @ended log now t work before ih =>
    obtain ⟨longest, last, hstate⟩ := state_recordRunEnd work t
    rw [hstate]
    exact ih.same rfl rfl rfl rfl

/-! ## A rhythm that is kept all along -/

/-- **A task that keeps its rhythm and was never resumed** is due at its runs' places from
the start on; what it has counted as missed is what was and what will be counted twice. -/
structure Steady (started : Nat) (log : List Turn) (t : Ticker) : Prop where
  /-- Each run has its place. -/
  due_eq : ∀ beat, t.beat? = some beat → beat.due = started + (t.metrics.runs + 1) * beat.every
  /-- All that is missed is counted twice. -/
  missed_eq : t.metrics.missed = recounted .fixed log + owed .fixed log
  /-- The intervals up to the latest turn have been run, or are owed. -/
  passed : ∀ beat, t.beat? = some beat → (latest started log - started) / beat.every < 2 ^ 64 →
    t.metrics.runs + owed .fixed log = (latest started log - started) / beat.every

namespace Steady

variable {started now work : Nat} {log : List Turn} {t : Ticker}

theorem start (name : String) (c : Cadence) (started : Nat) :
    Steady started [] (.start name c started 0) where
  due_eq beat hbeat := by
    rw [due_startBeat hbeat]
    show _ = started + (0 + 1) * beat.every
    omega
  missed_eq := rfl
  passed beat hbeat _ := by
    show 0 = (started - started) / beat.every
    rw [Nat.sub_self, Nat.zero_div]

theorem begun (h : Steady started log t) {beat : Beat} (hbeat : t.beat? = some beat)
    (hpolicy : t.policy = .fixed) (due : beat.due ≤ now) :
    Steady started (.ran now (t.tickInfo beat now) :: log) (t.begun beat now work) := by
  have hdue := h.due_eq beat hbeat
  refine ⟨fun beat' hbeat' => ?_, ?_, fun beat' hbeat' hfew => ?_⟩
  · obtain rfl := Option.some.inj hbeat'
    rw [hpolicy]
    show beat.due + beat.every = started + (t.metrics.runs + 1 + 1) * beat.every
    rw [Nat.add_mul _ 1]
    omega
  · show t.metrics.missed + _ = recounted .fixed log + owed .fixed log + _
    rw [h.missed_eq]
    rfl
  · obtain rfl := Option.some.inj hbeat'
    rw [every_after] at hfew ⊢
    -- the intervals before the due time have been run, those after it are missed
    have hpassed : (now - started) / beat.every
        = (now - beat.due) / beat.every + (t.metrics.runs + 1) := by
      rw [← Nat.add_mul_div_right _ _ beat.every_pos]
      congr 1
      omega
    show t.metrics.runs + 1 + (UInt64.ofNat ((now - beat.due) / beat.every)).toNat
      = (now - started) / beat.every
    have hsmall : (now - beat.due) / beat.every < 2 ^ 64 := by
      have hfew : (now - started) / beat.every < 2 ^ 64 := hfew
      omega
    rw [UInt64.toNat_ofNat', Nat.mod_eq_of_lt hsmall, hpassed, Nat.add_comm]

theorem same (h : Steady started log t) {t' : Ticker} (hbeat : t'.beat? = t.beat?)
    (hruns : t'.metrics.runs = t.metrics.runs) (hmissed : t'.metrics.missed = t.metrics.missed) :
    Steady started log t' where
  due_eq := by rw [hbeat, hruns]; exact h.due_eq
  missed_eq := by rw [hmissed]; exact h.missed_eq
  passed := by rw [hbeat, hruns]; exact h.passed

end Steady

namespace Course

variable {name : String} {c : Cadence} {started now : Nat} {log : List Turn} {t : Ticker}

theorem steady (course : Course name c started log now t) (hpolicy : c.policy = .fixed)
    (hgoing : ∀ moment, .resumed moment ∉ log) : Steady started log t := by
  induction course with
  | start => exact .start name c started
  | pass later before le ih => exact ih hgoing
  | run work before hbeat going due ih =>
    have hbefore := ih fun moment hmem => hgoing moment (List.mem_cons_of_mem _ hmem)
    rw [run_wake_of_due hbeat going (Nat.le_trans (Nat.min_le_left _ _) due)]
    exact hbefore.begun hbeat (before.tally.policy_eq.trans hpolicy) due
  | pause before ih =>
    rw [state_pause]
    exact (ih hgoing).same rfl rfl rfl
  | @resume log now t before ih =>
    cases hpaused : t.paused with
    | true =>
      rw [hpaused, if_pos rfl] at hgoing
      exact absurd List.mem_cons_self (hgoing now)
    | false =>
      rw [hpaused] at hgoing
      rw [state_resume_of_going now hpaused]
      exact ih hgoing
  | @ended log now t work before ih =>
    obtain ⟨longest, last, hstate⟩ := state_recordRunEnd work t
    rw [hstate]
    exact (ih hgoing).same rfl rfl rfl

/-- Without resumptions nothing is counted twice unless something was missed. -/
theorem recounted_add_owed_eq_zero_iff (hgoing : ∀ moment, .resumed moment ∉ log) :
    recounted .fixed log + owed .fixed log = 0
      ↔ ∀ moment info, .ran moment info ∈ log → info.missed = 0 := by
  induction log with
  | nil => simp [recounted]
  | cons turn log ih =>
    cases turn with
    | resumed now => exact absurd List.mem_cons_self (hgoing now)
    | ran now info =>
      have hrest := ih fun moment hmem => hgoing moment (List.mem_cons_of_mem _ hmem)
      have hmissed : info.missed.toNat = 0 ↔ info.missed = 0 := by
        rw [← UInt64.toNat_inj]
        rfl
      show recounted .fixed log + owed .fixed log + info.missed.toNat = 0 ↔ _
      rw [Nat.add_eq_zero_iff, hrest, hmissed]
      constructor
      · rintro ⟨hlog, hinfo⟩ moment info' (_ | ⟨_, hmem⟩)
        · exact hinfo
        · exact hlog moment info' hmem
      · intro h
        exact ⟨fun moment info' hmem => h moment info' (List.mem_cons_of_mem _ hmem),
          h now info List.mem_cons_self⟩

/-- **When no interval is counted twice.** After a run that began at `now`, a task that
skips what it missed has counted no more runs and missed runs than intervals have passed
since it was started, in every course. A task that keeps its rhythm may have counted
those in addition that were missed first and came later; and if it has never been resumed
and the intervals fit the count of missed runs, it has counted no more than have passed
exactly if no run before the latest has missed any. The run is completed, and the task not
spent by it, exactly if the clock goes on to the next run and the two counts fit 64 bits. -/
theorem counts_each_once_iff {moment : Nat} {info : TickInfo} {every : Nat}
    (course : Course name c started (.ran moment info :: log) now t)
    (hevery : t.interval? = some every) :
    (c.policy = .skip →
      t.metrics.runs + t.metrics.missed ≤ (moment - started) / every) ∧
    t.metrics.runs + t.metrics.missed
      ≤ (moment - started) / every + recounted c.policy (.ran moment info :: log) ∧
    (c.policy = .fixed → (∀ moment, .resumed moment ∉ log) →
      (moment - started) / every < 2 ^ 64 →
      (t.metrics.runs + t.metrics.missed ≤ (moment - started) / every
        ↔ ∀ earlier info, .ran earlier info ∈ log → info.missed = 0)) ∧
    (t.isSpent = false ↔ (∀ due, t.due? = some due → due < clockEnd) ∧
      t.metrics.runs < 2 ^ 64 ∧ t.metrics.missed < 2 ^ 64) := by
  obtain ⟨beat, hbeat, rfl⟩ := Option.map_eq_some_iff.mp hevery
  have hbound : t.metrics.runs + t.metrics.missed
      ≤ (moment - started) / beat.every + recounted c.policy (.ran moment info :: log) := by
    rw [← Nat.add_mul_div_right _ _ beat.every_pos, Nat.le_div_iff_mul_le beat.every_pos]
    have hcounted : _ ≤ moment + _ := course.tally.counted beat hbeat
    have hstarted : started ≤ moment := course.tally.started_le
    omega
  refine ⟨fun hskip => ?_, hbound, fun hfixed hgoing hfew => ?_, course.sums.isSpent_eq_false_iff⟩
  · rw [hskip, recounted_skip] at hbound
    exact hbound
  · have hsteady := course.steady hfixed (by simpa using hgoing)
    have hpassed : _ = (moment - started) / beat.every := hsteady.passed beat hbeat hfew
    have hmissed := hsteady.missed_eq
    have hrecounted : recounted .fixed (.ran moment info :: log)
        = recounted .fixed log + owed .fixed log := rfl
    rw [← recounted_add_owed_eq_zero_iff hgoing]
    omega

/-- A task that keeps a rhythm of five seconds runs on time, and then at 23 seconds, when
it counts two more runs as missed. Four intervals have passed, and four are counted. -/
theorem late_once_counts_each_once :
    ∃ t, Course "sweep" { Cadence.every (.ofSecs 5) with policy := .fixed } 0
        [.ran 23000000000 ⟨2, 13000000000, 2⟩, .ran 5000000000 ⟨1, 0, 0⟩] 23000000000 t ∧
      t.metrics.runs = 2 ∧ t.metrics.missed = 2 ∧
      t.metrics.runs + t.metrics.missed ≤ (23000000000 - 0) / 5000000000 ∧
      t.isSpent = false := by
  have started : Course "sweep" { Cadence.every (.ofSecs 5) with policy := .fixed } 0 [] 0 _ :=
    .start
  have once := (started.pass 5000000000 (by decide)).run 0 rfl rfl (by decide)
  have twice := (once.pass 23000000000 (by decide)).run 0 rfl rfl (by decide)
  obtain ⟨-, -, hcounts, hlasts⟩ := counts_each_once_iff twice rfl
  refine ⟨_, twice, rfl, rfl, (hcounts rfl (by simp) (by decide)).mpr ?_,
    hlasts.mpr (by decide +kernel)⟩
  rintro earlier info (_ | ⟨_, ⟨⟩⟩)
  rfl

/-- **A task that keeps its rhythm counts intervals twice**: one of five seconds wakes up
only after twenty. The first run counts three as missed. The second begins at once, and
counts the last two of them as missed again: there are seven in four intervals. -/
theorem late_twice_counts_twice :
    ∃ t, Course "sweep" { Cadence.every (.ofSecs 5) with policy := .fixed } 0
        [.ran 20000000000 ⟨2, 10000000000, 2⟩, .ran 20000000000 ⟨1, 15000000000, 3⟩]
        20000000000 t ∧
      t.interval? = some 5000000000 ∧ t.isSpent = false ∧
      (20000000000 - 0) / 5000000000 < t.metrics.runs + t.metrics.missed := by
  have started : Course "sweep" { Cadence.every (.ofSecs 5) with policy := .fixed } 0 [] 0 _ :=
    .start
  have once := (started.pass 20000000000 (by decide)).run 0 rfl rfl (by decide)
  have twice := once.run 0 rfl rfl (by decide)
  exact ⟨_, twice, rfl, by decide +kernel, by decide +kernel⟩

end Course

end InstancedZones.Ticker
