import InstancedZones.Service.Basic

/-!
# The sweep of the service

When time passes the service sweeps whenever a sweep is due; after a leap the
sweeps come late.
-/

namespace InstancedZones

namespace Service

variable {W : Type} [World W]

/-- Sweeps, if a sweep is due. -/
def sweepIfDue : Action (Service W) Unit := do
  let s ← get
  match ← onSweep (Ticker.wake s.elapsed 0) with
  | none => return ()
  | some info =>
    breakDownIfSpent
    if (← get).running then
      let closed ← onRealm (Realm.sweepExpired s.clock)
      onSweep (Ticker.recordRunEnd 0)
      if !closed.isEmpty then
        Action.record (.debug "expiry sweep done"
          [("tick", s!"{info.tick}"), ("closed", s!"{closed.length}")])

/-- Lets time pass up to `limit`, with at most `fuel` sweeps on the way. -/
def passUntil (limit : Nat) : Nat → Action (Service W) Unit
  | 0 => modify fun s => { s with elapsed := max s.elapsed limit }
  | fuel + 1 => do
    let s ← get
    match if s.running then s.sweep.nextWake? s.elapsed else none with
    | none => modify fun s => { s with elapsed := max s.elapsed limit }
    | some moment =>
      if moment ≤ limit then
        modify fun s => { s with elapsed := moment }
        sweepIfDue
        passUntil limit fuel
      else modify fun s => { s with elapsed := max s.elapsed limit }

/-- A bound on the number of sweeps up to `limit`: each moves the due time by an
interval at least. Past the horizon they come at once, but a sweep that keeps
its cadence gets to the end of the clock. -/
def sweepsUntil (s : Service W) (limit : Nat) : Nat :=
  match s.sweep.beat? with
  | none => 0
  | some beat =>
    let last :=
      match s.sweep.policy with
      | .skip => limit
      | .fixed => if limit < Ticker.horizon then limit else Ticker.clockEnd
    (last - beat.due) / beat.every + 1

/-- Lets so much time pass, with the sweeps that fall into it. -/
def sleep (nanos : Nat) : Action (Service W) Unit := do
  let s ← get
  let limit := Ticker.waitOver s.elapsed (s.elapsed + nanos)
  passUntil limit (s.sweepsUntil limit)

/-- Lets so much time pass at once; the sweeps that fall into it come late. -/
def jump (nanos : Nat) : Action (Service W) Unit := do
  modify fun s => { s with elapsed := s.elapsed + nanos }
  sleep 0

end Service

end InstancedZones
