import InstancedZones.Registry.Lifecycle
import InstancedZones.Ticker

/-!
# The service

One task owns the registry and the world. It takes requests from a queue, one
at a time and in order, and between them sweeps up expired instances at its
cadence. It stops when it is told to shut down, or when nobody is left who
could send requests; either way every open instance is closed first. It is
gone, and nothing is closed, if a job given to it breaks down or its sweep is
spent.

Time passes for the service on a clock of its own, which drives the sweep; the
wall clock, which instances live by, is read when a request or a sweep is
handled.
-/

namespace InstancedZones

/-- The reason given when the service stops. -/
def shutdownReason : String := "server shutdown"

/-- A service and where it stands. -/
structure Service (W : Type) where
  /-- The registry and the world. -/
  realm : Realm W
  /-- The sweep. -/
  sweep : Ticker
  /-- The wall clock. -/
  clock : Timestamp
  /-- Nanoseconds since the service started, on its own clock. -/
  elapsed : Nat
  /-- Whether it takes requests. -/
  running : Bool

namespace Service

variable {W α : Type}

/-- Runs an action of the registry and the world. -/
def onRealm (x : Action (Realm W) α) : Action (Service W) α :=
  x.within Service.realm fun realm s => { s with realm }

/-- Runs an action of the sweep. -/
def onSweep (x : Action Ticker α) : Action (Service W) α :=
  x.within Service.sweep fun sweep s => { s with sweep }

/-- A service that has just started. -/
def start (settings : Settings) (world : W) (clock : Timestamp) : Service W where
  realm := ⟨.ofSettings settings.templates, world⟩
  sweep := .start "instance-expiry" settings.sweepCadence 0 0
  clock := clock
  elapsed := 0
  running := true

/-- How many requests may wait: at least one. -/
def queueCapacity (settings : Settings) : Nat := max settings.commandQueue.toNat 1

/-- The most requests that a queue can be made for. -/
def maxQueueCapacity : Nat := 2305843009213693951

/-- A service that has just started, if there can be a queue as long as its
settings ask for. -/
def start? (settings : Settings) (world : W) (clock : Timestamp) : Option (Service W) :=
  if queueCapacity settings ≤ maxQueueCapacity then some (start settings world clock) else none

/-- What is recorded when a service starts. -/
def startEvents (settings : Settings) : List Event :=
  let sweep := Ticker.start "instance-expiry" settings.sweepCadence 0 0
  Ticker.startEvents "instance-expiry" settings.sweepCadence ++
    [.info "instance service started" (Event.optional "sweep_interval_ms" sweep.intervalText?)]

/-- Moves the wall clock. -/
def setClock (clock : Timestamp) (s : Service W) : Service W := { s with clock }

variable [World W]

/-! ## Stopping -/

/-- Closes every open instance. -/
def closeAll : Action (Realm W) (List CloseReport) := do
  let ids := (← Realm.getRegistry).ids
  if !ids.isEmpty then
    Action.record (.info "closing instances for shutdown" [("open", s!"{ids.length}")])
  Realm.closeEach shutdownReason ids

/-- Closes everything and stops. -/
def stop : Action (Service W) (List CloseReport) := do
  let reports ← onRealm closeAll
  modify fun s => { s with running := false }
  Action.record (.info "instance service stopped" [("sweeps", s!"{(← get).sweep.tickCount}")])
  return reports

/-- Nobody is left to send requests. -/
def abandon : Action (Service W) Unit := do
  if (← get).running then
    Action.record (.info "all instance handles dropped" [])
    let _ ← stop

/-- A job has broken down, and the service with it. -/
def breakDown : Action (Service W) Unit := modify fun s => { s with running := false }

/-- The service is gone once its sweep is spent. -/
def breakDownIfSpent : Action (Service W) Unit :=
  modify fun s => { s with running := s.running && !s.sweep.isSpent }

end Service

end InstancedZones
