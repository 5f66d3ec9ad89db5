import InstancedZones.Action
import InstancedZones.Cadence
import InstancedZones.Text.Visible

/-!
# Repeating tasks

A ticker holds when a repeating task is due next. It does nothing by itself:
whoever drives it asks for the next wake-up and reports when it happened. Times
are nanoseconds since the start of whatever drives it. How long a run takes is
measured on a second clock, the work clock, which may stand still.

Asking changes nothing. The due time moves when a run begins and when a paused
task is resumed, and never otherwise.

A run counts the ones missed before it in 64 bits, and starts over past the
greatest count. Nothing can be waited for without end: what lies past the
horizon comes when the horizon is reached, and at once if that is past.
Lastly, there is an end to the clock, and all that is summed up over the runs is
held in 64 bits. A task that gets past one of these ends is spent: what took it
there is never completed, and nothing more can be asked of it.
-/

namespace InstancedZones

/-- The rhythm of a task that is not disabled. -/
structure Beat where
  /-- The time between runs. -/
  every : Nat
  /-- It takes some time. -/
  every_pos : 0 < every
  /-- When the next run is due. -/
  due : Nat
deriving DecidableEq

namespace Beat

/-- The rhythm after a run that began at `now`. -/
def after (beat : Beat) (policy : LatePolicy) (now : Nat) : Beat :=
  match policy with
  | .skip => { beat with due := now + beat.every }
  | .fixed => { beat with due := beat.due + beat.every }

/-- The rhythm of a task that is resumed at `now`: the next run is one interval
away. -/
def resumed (beat : Beat) (now : Nat) : Beat := { beat with due := now + beat.every }

end Beat

/-- What has been counted of a task's runs. -/
structure TickerMetrics where
  /-- The runs. -/
  runs : Nat
  /-- The runs more than a tenth of the interval late. -/
  late : Nat
  /-- The runs that never happened. -/
  missed : Nat
  /-- The longest a run took. -/
  longestRun : Nat
  /-- How long the last run took. -/
  lastRun : Nat
deriving DecidableEq, Repr

/-- A repeating task. -/
structure Ticker where
  /-- Its name. -/
  name : String
  /-- Its rhythm; a task without one is disabled. -/
  beat? : Option Beat
  /-- What it does when late. -/
  policy : LatePolicy
  /-- How often it has run. -/
  tickCount : Nat
  /-- When the run that has not ended began, on the work clock. -/
  runStart? : Option Nat
  /-- Whether it is paused. -/
  paused : Bool
  /-- What has been counted. -/
  metrics : TickerMetrics
deriving DecidableEq

/-- What is known of a run when it begins. -/
structure TickInfo where
  /-- The number of the run, from one. -/
  tick : Nat
  /-- How late it is. -/
  lateBy : Nat
  /-- How many runs were missed. -/
  missed : UInt64
deriving DecidableEq, Repr

namespace Ticker

/-- The rhythm of a cadence that starts at `now`, the first run being `delay`
later than the interval has it. -/
def startBeat (c : Cadence) (now delay : Nat) : Option Beat :=
  match c.validated.interval? with
  | none => none
  | some interval =>
    if h : 0 < interval.nanos then some ⟨interval.nanos, h, now + interval.nanos + delay⟩ else none

/-- A task of a cadence that starts at `now`. -/
def start (name : String) (c : Cadence) (now delay : Nat) : Ticker where
  name := name
  beat? := startBeat c now delay
  policy := c.policy
  tickCount := 0
  runStart? := none
  paused := false
  metrics := ⟨0, 0, 0, 0, 0⟩

/-- The interval. -/
def interval? (t : Ticker) : Option Nat := t.beat?.map Beat.every

/-- Whether the task never runs. -/
def isDisabled (t : Ticker) : Bool := t.beat?.isNone

/-- The interval in milliseconds, as text. -/
def intervalText? (t : Ticker) : Option String := t.interval?.map fun every => s!"{every / 1000000}"

/-- What is recorded of a task that starts. -/
def startEvents (name : String) (c : Cadence) : List Event :=
  c.complaints ++
  [match (start name c 0 0).intervalText? with
   | some ms =>
     .debug "repeating task created"
       [("task", name), ("interval_ms", ms), ("policy", c.policy.label)]
   | none => .debug "repeating task created disabled" [("task", name)]]

/-! ## Ends -/

/-- The last moment that can be waited for: whole milliseconds are counted in
64 bits, and the two greatest counts mean something else. -/
def horizon : Nat := 18446744073709551613 * 1000000

/-- When a wait that starts at `now` for a moment is over. -/
def waitOver (now moment : Nat) : Nat := max now (min moment horizon)

/-- Where the clock ends, in nanoseconds. -/
def clockEnd : Nat := 9223372036854775807 * 1000000000

/-- Whether a task is due past the end of the clock. -/
def isTimeless (t : Ticker) : Bool := t.beat?.any fun beat => clockEnd ≤ beat.due

/-- Whether the runs of a task, or the late ones of them, do not fit 64 bits. -/
def isUncounted (t : Ticker) : Bool :=
  18446744073709551616 ≤ t.tickCount || 18446744073709551616 ≤ t.metrics.runs ||
    18446744073709551616 ≤ t.metrics.late

/-- Whether the sum of the runs a task missed does not fit 64 bits. -/
def isOverfull (t : Ticker) : Bool := 18446744073709551616 ≤ t.metrics.missed

/-- Whether nothing more can be asked of a task. -/
def isSpent (t : Ticker) : Bool := t.isTimeless || t.isUncounted || t.isOverfull

/-! ## Runs -/

/-- When the task wakes up next, if nothing changes: when it is due, and at
once if that is past. -/
def nextWake? (t : Ticker) (now : Nat) : Option Nat :=
  if t.paused then none else t.beat?.map fun beat => waitOver now beat.due

/-- What a run that begins at `now` finds. -/
def tickInfo (t : Ticker) (beat : Beat) (now : Nat) : TickInfo where
  tick := t.tickCount + 1
  lateBy := now - beat.due
  missed := UInt64.ofNat ((now - beat.due) / beat.every)

/-- Whether a run is late enough to count as late. -/
def countsAsLate (beat : Beat) (info : TickInfo) : Bool := beat.every / 10 < info.lateBy

/-- The task once a run has begun. -/
def begun (t : Ticker) (beat : Beat) (now work : Nat) : Ticker :=
  let info := t.tickInfo beat now
  { t with
    tickCount := info.tick
    runStart? := some work
    beat? := some (beat.after t.policy now)
    metrics :=
      { t.metrics with
        runs := t.metrics.runs + 1
        late := t.metrics.late + if countsAsLate beat info then 1 else 0
        missed := t.metrics.missed + info.missed.toNat } }

/-- What is recorded when a run begins; `next` is the task once it has. Of a task
that is spent thereby, only what comes before. -/
def beginEvents (next : Ticker) (beat : Beat) (info : TickInfo) : List Event :=
  if next.isTimeless || next.isUncounted then []
  else
    (if 0 < info.missed then
      [.warn "repeating task fell behind"
        [("task", next.name), ("tick", s!"{info.tick}"), ("missed", s!"{info.missed}"),
         ("policy", next.policy.label)]]
    else []) ++
    if next.isOverfull then []
    else
      [.trace "repeating task due"
        [("task", next.name), ("tick", s!"{info.tick}"), ("late", s!"{countsAsLate beat info}")]]

/-- Begins a run at `now`. -/
def beginRun (beat : Beat) (now work : Nat) : Action Ticker TickInfo := do
  let t ← get
  let info := t.tickInfo beat now
  let next := t.begun beat now work
  set next
  Action.recordAll (next.beginEvents beat info)
  return info

/-- Begins a run at `now`, if the task is neither disabled nor paused and its
wait is over. -/
def wake (now work : Nat) : Action Ticker (Option TickInfo) := do
  let t ← get
  match t.beat? with
  | none => return none
  | some beat =>
    if t.paused || now < waitOver now beat.due then return none
    else return some (← beginRun beat now work)

/-- Waits from `now` until a run begins, but not past `limit`: the time it is
then, and the run if one began. -/
def waitUntil (now limit work : Nat) : Action Ticker (Nat × Option TickInfo) := do
  let t ← get
  match if t.paused then none else t.beat? with
  | none => return (waitOver now limit, none)
  | some beat =>
    let moment := waitOver now beat.due
    if moment ≤ waitOver now limit then return (moment, some (← beginRun beat moment work))
    else return (waitOver now limit, none)

/-- Ends the run that has begun, if one has. -/
def recordRunEnd (work : Nat) : Action Ticker Unit := do
  let t ← get
  match t.runStart? with
  | none => return ()
  | some began =>
    let took := work - began
    set { t with
      runStart? := none
      metrics := { t.metrics with lastRun := took, longestRun := max t.metrics.longestRun took } }
    match t.interval? with
    | none => return ()
    | some every =>
      if every ≤ took then
        Action.record (.warn "repeating task run took longer than its interval"
          [("task", t.name), ("tick", s!"{t.tickCount}"), ("interval_ms", s!"{every / 1000000}")])

/-- Pauses the task. -/
def pause : Action Ticker Unit := do
  let t ← get
  if t.paused then return ()
  else
    set { t with paused := true }
    Action.record (.debug "repeating task paused" [("task", t.name), ("tick", s!"{t.tickCount}")])

/-- Resumes the task at `now`. -/
def resume (now : Nat) : Action Ticker Unit := do
  let t ← get
  if t.paused then
    let next := { t with paused := false, beat? := t.beat?.map (Beat.resumed · now) }
    set next
    if next.isTimeless then return ()
    else
      Action.record
        (.debug "repeating task resumed" [("task", t.name), ("tick", s!"{t.tickCount}")])
  else return ()

/-- A task in one line. -/
def text (t : Ticker) : String :=
  let interval :=
    match t.interval? with
    | none => "None"
    | some every => "Some(" ++ Duration.nanosText every ++ ")"
  "RepeatingTask \x7b name: " ++ Text.shown t.name ++ ", interval: " ++ interval ++
    s!", tick_count: {t.tickCount}, paused: {t.paused} \x7d"

end Ticker

end InstancedZones
