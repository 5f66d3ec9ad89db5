import InstancedZones.Time.Duration
import InstancedZones.Event

/-!
# Cadences

How often a repeating task is meant to run, and what it does when it wakes up
late.
-/

namespace InstancedZones

/-- What a task does that woke up late. -/
inductive LatePolicy
  /-- The runs it missed are forgotten: the next is due one interval from now. -/
  | skip
  /-- The rhythm stays: the next run is due one interval after the late one was. -/
  | fixed
deriving DecidableEq, Repr, Inhabited

namespace LatePolicy

/-- The name of a policy in settings. -/
def keyword : LatePolicy → String
  | .skip => "skip"
  | .fixed => "fixed"

/-- The name of a policy in recorded events. -/
def label : LatePolicy → String
  | .skip => "Skip"
  | .fixed => "Fixed"

/-- The policies by their names in settings. -/
def keywords : List (String × LatePolicy) := [("skip", .skip), ("fixed", .fixed)]

end LatePolicy

/-- How a task is meant to run. -/
structure Cadence where
  /-- The time between runs; without one the task never runs. -/
  interval? : Option Duration
  /-- What to do when late. -/
  policy : LatePolicy
  /-- The bound of a random delay before the first run. -/
  jitter : Duration
deriving DecidableEq

namespace Cadence

/-- Never. -/
def never : Cadence := ⟨none, .skip, .zero⟩

instance : Inhabited Cadence := ⟨never⟩

/-- The shortest interval a task is run at. -/
def minInterval : Duration := .ofMillis 10

/-- Once in every interval. -/
def every (interval : Duration) : Cadence := { never with interval? := some interval }

/-- Once in so many milliseconds; zero is never. -/
def everyMillis (ms : UInt64) : Cadence := if ms = 0 then never else every (.ofMillis ms)

/-- The cadence that is really kept: an empty interval is never, and one that
is too short is as long as the shortest. -/
def validated (c : Cadence) : Cadence :=
  match c.interval? with
  | none => c
  | some interval =>
    if interval.isZero then { c with interval? := none }
    else if interval.nanos < minInterval.nanos then { c with interval? := some minInterval }
    else c

/-- What is said about a cadence that has to be changed. -/
def complaints (c : Cadence) : List Event :=
  match c.interval? with
  | none => []
  | some interval =>
    if !interval.isZero && interval.nanos < minInterval.nanos then
      [.warn "repeating task interval below minimum, clamping"
        [("interval_ms", s!"{interval.millis}"), ("min_ms", s!"{minInterval.millis}")]]
    else []

end Cadence

end InstancedZones
