import InstancedZones.Registry.Teleport
import InstancedZones.Service.Basic
import InstancedZones.Service.Command

/-!
# Requests to the service

Requests wait in a queue of bounded length and are handled one at a time. A
request that reaches the service too late is told that it is unavailable.
-/

namespace InstancedZones

namespace Service

variable {W α : Type} [World W]

/-- An operation of the registry, with its reply. -/
def operate (x : Action (Realm W) (Except Refusal α)) (reply : α → Reply) :
    Action (Service W) (Except ServiceFault Reply) := do
  match ← onRealm x with
  | .error refusal => return .error (.refused refusal)
  | .ok value => return .ok (reply value)

/-- Carries out a command. -/
def perform (c : Command) : Action (Service W) (Except ServiceFault Reply) := do
  let s ← get
  match c with
  | .create blueprint => operate (Realm.create blueprint s.clock) .created
  | .bindPlayer player id => operate (Realm.bindPlayer player id) fun _ => .done
  | .bindParty leader id => operate (Realm.bindParty leader id) fun _ => .done
  | .teleportInto id player => operate (Realm.teleportInto id player) fun _ => .done
  | .close id reason => operate (Realm.close id reason) .closed
  | .playerLeave player => return .ok (.answer (← onRealm (Realm.playerLeave player)))
  | .isPlayerBound player id => return .ok (.answer (s.realm.registry.isPlayerBound player id))
  | .list => return .ok (.listing s.realm.registry.summaries)
  | .pauseSweep => do
    onSweep Ticker.pause
    return .ok .done
  | .resumeSweep => do
    onSweep (Ticker.resume s.elapsed)
    breakDownIfSpent
    return .ok .done
  | .sweepMetrics => return .ok (.metrics s.sweep.metrics)
  | .shutdown => return .ok (.reports (← stop))

/-- What waits in the queue: a command, a job with an answer of its own, or a
job that breaks down. -/
inductive Request (W α : Type)
  /-- A command. -/
  | command (c : Command)
  /-- A job. -/
  | job (run : Action (Realm W) α)
  /-- A job that breaks down. -/
  | broken

/-- What a request is answered with. -/
inductive Answer (α : Type)
  /-- The reply to a command. -/
  | reply (value : Reply)
  /-- The answer of a job. -/
  | result (value : α)

/-- Handles a request that waits in the queue. If the service has stopped in
the meantime nothing is done; pausing and resuming the sweep, which wait for no
reply, count as done then. -/
def handle (q : Request W α) : Action (Service W) (Except ServiceFault (Answer α)) := do
  if (← get).running then
    match q with
    | .command c => return (← perform c).map .reply
    | .job run => return .ok (.result (← onRealm run))
    | .broken =>
      breakDown
      return .error .unavailable
  else
    match q with
    | .command .pauseSweep => return .ok (.reply .done)
    | .command .resumeSweep => return .ok (.reply .done)
    | _ => return .error .unavailable

/-- Sends a request and waits for its answer. -/
def request (q : Request W α) : Action (Service W) (Except ServiceFault (Answer α)) := do
  if (← get).running then handle q else return .error .unavailable

/-- How many requests the service handles before it lets those who wait for a
place in the queue have their turn. -/
def burst : Nat := 128

/-- Sends requests all at once to a queue for `capacity` of them. The next
`queued` of them are in the queue, and the service will handle `turn` more
before it rests. Whenever it rests or has emptied the queue, and still runs,
the queue is filled again. A request that is not in the queue when the service
stops is not accepted. -/
def requestFrom (capacity : Nat) :
    Nat → Nat → List (Request W α) → Action (Service W) (List (Except ServiceFault (Answer α)))
  | _, _, [] => return []
  | turn, queued, q :: rest => do
    let refill := (turn = 0 || queued = 0) && (← get).running
    let turn := if refill then burst else turn
    let queued := if refill then capacity else queued
    let answer ← if queued = 0 then pure (.error .unavailable) else handle q
    return answer :: (← requestFrom capacity (turn - 1) (queued - 1) rest)

/-- Sends requests all at once, and waits for all their answers. -/
def requestAll (capacity : Nat) (qs : List (Request W α)) :
    Action (Service W) (List (Except ServiceFault (Answer α))) :=
  requestFrom capacity 0 0 qs

end Service

end InstancedZones
