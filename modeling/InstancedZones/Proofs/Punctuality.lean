import InstancedZones.Proofs.Course

/-!
# When the runs of a repeating task come

A task that is started without a delay and never resumed follows a plan that is told
by its policy and by the runs it has made, `nextDue`. If it keeps its rhythm, the k-th
run is due k intervals after the start, however late the runs before it were; if it
skips what it missed, each run is due one interval after the one before it began.

Each run reports its number, how late it is by that plan, and how many whole intervals
that is, `report`. The last of these is counted in 64 bits, so a task that is 2⁶⁴
intervals late says that it has missed none (`Course.late_beyond_count`); nothing else
about the plan depends on how late the runs are. In particular no policy ever makes more
runs than there are whole intervals since the start, `Course.on_schedule`. The plan has an
end where the clock or a sum has one, and it can be told from the runs when it is reached.
-/

namespace InstancedZones

/-- The interval that is really kept is not empty. -/
theorem Cadence.pos_of_validated {c : Cadence} {d : Duration}
    (h : c.validated.interval? = some d) : 0 < d.nanos := by
  unfold validated at h
  split at h
  · next hnone =>
    rw [hnone] at h
    cases h
  · split at h
    · cases h
    · next interval hinterval hzero =>
      split at h
      · rw [← Option.some.inj h]
        decide
      · rw [hinterval] at h
        rw [← Option.some.inj h]
        exact Nat.pos_of_ne_zero fun heq => hzero (beq_iff_eq.mpr heq)

namespace Ticker

/-- The first run of a task that is not disabled. -/
theorem startBeat_of_validated {c : Cadence} {d : Duration}
    (h : c.validated.interval? = some d) (started delay : Nat) :
    startBeat c started delay
      = some ⟨d.nanos, c.pos_of_validated h, started + d.nanos + delay⟩ := by
  unfold startBeat
  rw [h]
  exact dif_pos (c.pos_of_validated h)

/-! ## The plan -/

/-- The moment of a turn. -/
def Turn.moment : Turn → Nat
  | .ran now _ => now
  | .resumed now => now

/-- **When the next run is due** after the turns on the list, the latest first, if all
of them are runs. -/
def nextDue (policy : LatePolicy) (started every : Nat) (log : List Turn) : Nat :=
  match policy with
  | .skip => latest started log + every
  | .fixed => started + (log.length + 1) * every

/-- **What the next run reports** if it begins at `now`. -/
def report (policy : LatePolicy) (started every : Nat) (log : List Turn) (now : Nat) :
    TickInfo where
  tick := log.length + 1
  lateBy := now - nextDue policy started every log
  missed := UInt64.ofNat ((now - nextDue policy started every log) / every)

/-- **The runs on the list keep to the plan**: none began before it was due, and each
has reported what it should. -/
def OnSchedule (policy : LatePolicy) (started every : Nat) (log : List Turn) : Prop :=
  ∀ moment info earlier, .ran moment info :: earlier <:+ log →
    nextDue policy started every earlier ≤ moment ∧
      info = report policy started every earlier moment

namespace OnSchedule

variable {policy : LatePolicy} {started every moment : Nat} {info : TickInfo} {turn : Turn}
  {log : List Turn}

theorem nil : OnSchedule policy started every [] := by
  intro moment info earlier hsuffix
  cases List.suffix_nil.mp hsuffix

/-- One more run keeps to the plan if it is not early and reports what it should. -/
theorem ran (h : OnSchedule policy started every log)
    (hdue : nextDue policy started every log ≤ moment) :
    OnSchedule policy started every
      (.ran moment (report policy started every log moment) :: log) := by
  intro moment' info' earlier hsuffix
  rcases List.suffix_cons_iff.mp hsuffix with heq | hearlier
  · obtain ⟨hturn, rfl⟩ := List.cons.inj heq
    obtain ⟨rfl, rfl⟩ := Turn.ran.inj hturn
    exact ⟨hdue, rfl⟩
  · exact h moment' info' earlier hearlier

theorem tail (h : OnSchedule policy started every (turn :: log)) :
    OnSchedule policy started every log :=
  fun moment info earlier hsuffix => h moment info earlier (hsuffix.trans (List.suffix_cons _ _))

/-- Without resumptions the latest turn, if there is one, is a run. -/
theorem head_ran (hgoing : ∀ moment, .resumed moment ∉ turn :: log) :
    ∃ moment info, turn = .ran moment info := by
  cases turn with
  | ran moment info => exact ⟨moment, info, rfl⟩
  | resumed moment => exact absurd List.mem_cons_self (hgoing moment)

/-- **The latest run is not early by the clock**: there are as many whole intervals
before it as there are runs. -/
theorem length_mul_le (h : OnSchedule policy started every log)
    (hgoing : ∀ moment, .resumed moment ∉ log) :
    started + log.length * every ≤ latest started log := by
  induction log with
  | nil => simp [latest]
  | cons turn earlier ih =>
    obtain ⟨moment, info, rfl⟩ := head_ran hgoing
    have hbefore := ih h.tail fun moment hmem => hgoing moment (List.mem_cons_of_mem _ hmem)
    have hdue := (h moment info earlier (List.suffix_refl _)).1
    show started + (earlier.length + 1) * every ≤ moment
    cases policy with
    | skip =>
      have hdue : latest started earlier + every ≤ moment := hdue
      rw [Nat.add_mul, Nat.one_mul]
      omega
    | fixed => exact hdue

/-- **There are never more runs than whole intervals**, whenever one looks. -/
theorem count_le (hevery : 0 < every) (h : OnSchedule policy started every log)
    (hgoing : ∀ moment, .resumed moment ∉ log) (clock : Nat) :
    (log.filter fun turn => turn.moment ≤ clock).length ≤ (clock - started) / every := by
  induction log with
  | nil => exact Nat.zero_le _
  | cons turn earlier ih =>
    obtain ⟨moment, info, rfl⟩ := head_ran hgoing
    by_cases hle : moment ≤ clock
    · -- the latest run has all the others before it
      have hbefore : started + (earlier.length + 1) * every ≤ moment := h.length_mul_le hgoing
      have hcount := List.length_filter_le (fun turn : Turn => decide (turn.moment ≤ clock))
        (.ran moment info :: earlier)
      refine Nat.le_trans hcount ((Nat.le_div_iff_mul_le hevery).mpr ?_)
      show (earlier.length + 1) * every ≤ clock - started
      omega
    · have hafter : ¬ decide ((Turn.ran moment info).moment ≤ clock) = true :=
        fun h => hle (of_decide_eq_true h)
      rw [List.filter_cons, if_neg hafter]
      exact ih h.tail fun moment hmem => hgoing moment (List.mem_cons_of_mem _ hmem)

/-- **If no run is late, each comes at its place**, whatever the policy. -/
theorem latest_of_punctual (h : OnSchedule policy started every log)
    (hgoing : ∀ moment, .resumed moment ∉ log)
    (hpunctual : ∀ moment info, .ran moment info ∈ log → info.lateBy = 0) :
    latest started log = started + log.length * every := by
  induction log with
  | nil => simp [latest]
  | cons turn earlier ih =>
    obtain ⟨moment, info, rfl⟩ := head_ran hgoing
    have hbefore := ih h.tail (fun moment hmem => hgoing moment (List.mem_cons_of_mem _ hmem))
      fun moment info hmem => hpunctual moment info (List.mem_cons_of_mem _ hmem)
    obtain ⟨hdue, rfl⟩ := h moment info earlier (List.suffix_refl _)
    have hlate : moment - nextDue policy started every earlier = 0 :=
      hpunctual moment _ List.mem_cons_self
    show moment = started + (earlier.length + 1) * every
    cases policy with
    | skip =>
      have hnext : nextDue .skip started every earlier = latest started earlier + every := rfl
      rw [Nat.add_mul, Nat.one_mul]
      omega
    | fixed =>
      have hnext : nextDue .fixed started every earlier
          = started + (earlier.length + 1) * every := rfl
      omega

end OnSchedule

/-! ## Every course keeps to it -/

/-- **A task that keeps to the plan**: the runs it has made do, and the next one is due
when the plan says so. -/
structure Punctual (policy : LatePolicy) (started every : Nat) (log : List Turn) (t : Ticker) :
    Prop where
  /-- The policy is the one the task was started with. -/
  policy_eq : t.policy = policy
  /-- The runs are counted. -/
  tickCount_eq : t.tickCount = log.length
  /-- The rhythm goes by the plan. -/
  beat_eq : ∃ beat, t.beat? = some beat ∧ beat.every = every ∧
    beat.due = nextDue policy started every log
  /-- The runs on the list do. -/
  schedule : OnSchedule policy started every log

namespace Punctual

variable {policy : LatePolicy} {started every now work : Nat} {log : List Turn} {t : Ticker}

theorem start (name : String) {c : Cadence} {d : Duration}
    (h : c.validated.interval? = some d) (started : Nat) :
    Punctual c.policy started d.nanos [] (.start name c started 0) where
  policy_eq := rfl
  tickCount_eq := rfl
  beat_eq := by
    refine ⟨_, startBeat_of_validated h started 0, rfl, ?_⟩
    cases hpolicy : c.policy with
    | skip => rfl
    | fixed =>
      show started + d.nanos + 0 = started + (0 + 1) * d.nanos
      omega
  schedule := .nil

/-- What the next run finds is what the plan says it reports. -/
theorem tickInfo_eq (h : Punctual policy started every log t) {beat : Beat}
    (hbeat : t.beat? = some beat) (now : Nat) :
    t.tickInfo beat now = report policy started every log now := by
  obtain ⟨beat', hbeat', hevery, hdue⟩ := h.beat_eq
  obtain rfl := Option.some.inj (hbeat.symm.trans hbeat')
  rw [tickInfo, report, h.tickCount_eq, hdue, hevery]

theorem begun (h : Punctual policy started every log t) {beat : Beat}
    (hbeat : t.beat? = some beat) (hdue : beat.due ≤ now) :
    Punctual policy started every (.ran now (t.tickInfo beat now) :: log)
      (t.begun beat now work) := by
  obtain ⟨beat', hbeat', hevery, hplan⟩ := h.beat_eq
  obtain rfl := Option.some.inj (hbeat.symm.trans hbeat')
  refine ⟨h.policy_eq, ?_, ⟨_, rfl, (every_after ..).trans hevery, ?_⟩, ?_⟩
  · show t.tickCount + 1 = log.length + 1
    rw [h.tickCount_eq]
  · rw [h.policy_eq]
    cases policy with
    | skip =>
      show now + beat.every = now + every
      rw [hevery]
    | fixed =>
      show beat.due + beat.every = started + (log.length + 1 + 1) * every
      rw [hplan, hevery, Nat.add_mul _ 1, Nat.one_mul, ← Nat.add_assoc]
      rfl
  · rw [h.tickInfo_eq hbeat]
    exact h.schedule.ran (hplan ▸ hdue)

/-- What does not touch the rhythm and the number of runs changes nothing. -/
theorem same (h : Punctual policy started every log t) {t' : Ticker} (hbeat : t'.beat? = t.beat?)
    (hpolicy : t'.policy = t.policy) (hcount : t'.tickCount = t.tickCount) :
    Punctual policy started every log t' where
  policy_eq := hpolicy.trans h.policy_eq
  tickCount_eq := hcount.trans h.tickCount_eq
  beat_eq := by rw [hbeat]; exact h.beat_eq
  schedule := h.schedule

end Punctual

namespace Course

variable {name : String} {c : Cadence} {d : Duration} {started now : Nat} {log : List Turn}
  {t : Ticker}

theorem punctual (course : Course name c started log now t)
    (hinterval : c.validated.interval? = some d) (hgoing : ∀ moment, .resumed moment ∉ log) :
    Punctual c.policy started d.nanos log t := by
  induction course with
  | start => exact .start name hinterval started
  | pass later before le ih => exact ih hgoing
  | run work before hbeat going due ih =>
    have hbefore := ih fun moment hmem => hgoing moment (List.mem_cons_of_mem _ hmem)
    rw [run_wake_of_due hbeat going (Nat.le_trans (Nat.min_le_left _ _) due)]
    exact hbefore.begun hbeat due
  | pause before ih =>
    rw [state_pause]
    exact (ih hgoing).same rfl rfl rfl
  | @resume log now t before ih =>
    cases hpaused : t.paused with
    | true =>
      rw [hpaused, if_pos rfl] at hgoing
      exact absurd List.mem_cons_self (hgoing now)
    | false =>
      rw [hpaused] at hgoing
      rw [state_resume_of_going now hpaused]
      exact ih hgoing
  | @ended log now t work before ih =>
    obtain ⟨longest, last, hstate⟩ := state_recordRunEnd work t
    rw [hstate]
    exact (ih hgoing).same rfl rfl rfl

/-- Without resumptions all turns are runs. -/
theorem countP_isRun (hgoing : ∀ moment, .resumed moment ∉ log) :
    log.countP Turn.isRun = log.length := by
  refine List.countP_eq_length.mpr fun turn hmem => ?_
  cases turn with
  | ran => rfl
  | resumed moment => exact absurd hmem (hgoing moment)

/-- **A task that is never resumed keeps to the plan.** Every run it has made began when
it was due or later, and has reported its number, how late it was by the plan, and the
whole intervals that makes, in 64 bits. The next run is due as planned, and if the task
is not paused it begins whenever it is waited for after that, with the report that the
plan has for it; it is completed, and the task not spent by it, exactly if the clock goes on
to the run after it, its number fits 64 bits, and so does the sum of all that were missed. A
task that skips what it missed leaves an interval between runs. There
are never more runs than whole intervals since the start, and if none is late, each
comes at its place. -/
theorem on_schedule (course : Course name c started log now t)
    (hinterval : c.validated.interval? = some d) (hgoing : ∀ moment, .resumed moment ∉ log) :
    (∀ moment info earlier, .ran moment info :: earlier <:+ log →
      nextDue c.policy started d.nanos earlier ≤ moment ∧
        info = report c.policy started d.nanos earlier moment) ∧
    (∃ beat, t.beat? = some beat ∧ beat.every = d.nanos ∧
      beat.due = nextDue c.policy started d.nanos log) ∧
    (t.paused = false → ∀ later work, nextDue c.policy started d.nanos log ≤ later →
      ((wake later work).run t).answer = some (report c.policy started d.nanos log later) ∧
      (((wake later work).run t).state.isSpent = false ↔
        nextDue c.policy started d.nanos
            (.ran later (report c.policy started d.nanos log later) :: log) < clockEnd ∧
          log.length + 1 < 2 ^ 64 ∧
          (report c.policy started d.nanos log later).missed.toNat
            + (log.map Turn.missed).sum < 2 ^ 64)) ∧
    (c.policy = .skip → ∀ moment info moment' info' earlier,
      .ran moment' info' :: .ran moment info :: earlier <:+ log → moment + d.nanos ≤ moment') ∧
    (∀ clock, (log.filter fun turn => turn.moment ≤ clock).length
      ≤ (clock - started) / d.nanos) ∧
    ((∀ moment info, .ran moment info ∈ log → info.lateBy = 0) →
      ∀ moment info earlier, .ran moment info :: earlier <:+ log →
        moment = started + (earlier.length + 1) * d.nanos) := by
  have hpunctual := course.punctual hinterval hgoing
  refine ⟨hpunctual.schedule, hpunctual.beat_eq, fun hpaused later work hdue => ?_,
    fun hskip moment info moment' info' earlier hsuffix => ?_, fun clock => ?_,
    fun hnone moment info earlier hsuffix => ?_⟩
  · obtain ⟨beat, hbeat, -, hplan⟩ := hpunctual.beat_eq
    have hinfo := hpunctual.tickInfo_eq hbeat later
    rw [run_wake_of_due hbeat hpaused (Nat.le_trans (Nat.min_le_left _ _) (hplan ▸ hdue)), hinfo]
    refine ⟨rfl, ?_⟩
    -- what the run leaves behind keeps to the plan and to the sums, with the run on the list
    have hbegun : Punctual c.policy started d.nanos (.ran later (t.tickInfo beat later) :: log)
      (t.begun beat later work) := hpunctual.begun hbeat (hplan ▸ hdue)
    have hsums : Counted (.ran later (t.tickInfo beat later) :: log) (t.begun beat later work) :=
      course.sums.begun beat
    rw [hinfo] at hbegun hsums
    obtain ⟨next, hnext, -, hdue'⟩ := hbegun.beat_eq
    have hruns := hsums.runs_eq
    rw [List.countP_cons_of_pos rfl, countP_isRun hgoing] at hruns
    rw [hsums.isSpent_eq_false_iff, hruns, hsums.missed_eq, due?, hnext, ← hdue']
    simp [Turn.missed]
  · have hdue := (hpunctual.schedule moment' info' _ hsuffix).1
    rw [hskip] at hdue
    exact hdue
  · exact hpunctual.schedule.count_le (c.pos_of_validated hinterval) hgoing clock
  · have hpart : OnSchedule c.policy started d.nanos (.ran moment info :: earlier) :=
      fun _ _ _ h => hpunctual.schedule _ _ _ (h.trans hsuffix)
    exact hpart.latest_of_punctual (fun _ hmem => hgoing _ (hsuffix.subset hmem))
      fun _ _ hmem => hnone _ _ (hsuffix.subset hmem)

/-- A task that keeps a rhythm of five seconds wakes up after twenty for the first time,
and the second run begins at once, ten seconds late. The third is due at fifteen seconds
all the same, and reports that it is five seconds late. -/
theorem late_twice_on_schedule :
    ∃ t, Course "sweep" { Cadence.every (.ofSecs 5) with policy := .fixed } 0
        [.ran 20000000000 ⟨2, 10000000000, 2⟩, .ran 20000000000 ⟨1, 15000000000, 3⟩]
        20000000000 t ∧
      ((wake 20000000000 0).run t).answer = some ⟨3, 5000000000, 1⟩ ∧
      ((wake 20000000000 0).run t).state.isSpent = false := by
  have started : Course "sweep" { Cadence.every (.ofSecs 5) with policy := .fixed } 0 [] 0 _ :=
    .start
  have once := (started.pass 20000000000 (by decide)).run 0 rfl rfl (by decide)
  have twice := once.run 0 rfl rfl (by decide)
  refine ⟨_, twice, ?_⟩
  have h := on_schedule (d := .ofSecs 5) twice rfl (by simp)
  obtain ⟨hreport, hlasts⟩ := h.2.2.1 rfl 20000000000 0 (by decide)
  exact ⟨hreport, hlasts.mpr (by decide +kernel)⟩

/-- **So late that the count starts over**: a task of ten milliseconds wakes up 2⁶⁴
intervals after it was due, and reports that it has missed none. It is not spent thereby. -/
theorem late_beyond_count :
    ∃ t info, Course "sweep" (Cadence.every (.ofMillis 10)) 0
        [.ran 184467440737095516170000000 info] 184467440737095516170000000 t ∧
      t.isSpent = false ∧ info.lateBy / 10000000 = 18446744073709551616 ∧
      info.missed.toNat ≠ info.lateBy / 10000000 := by
  have started : Course "sweep" (Cadence.every (.ofMillis 10)) 0 [] 0 _ := .start
  have once := (started.pass 184467440737095516170000000 (by decide)).run 0 rfl rfl (by decide)
  exact ⟨_, _, once, by decide +kernel, by decide +kernel, by decide +kernel⟩

end Course

end Ticker

end InstancedZones
