import InstancedZones.Registry.Basic

/-!
# Opening and closing instances

An instance is opened from a blueprint once its map template is ready. It is
closed on request, or by a sweep when its end has come. Whoever is in it then
is sent to its exit, or home if there is no usable exit or the way to it is
barred; those who are not connected stay where they are. Nobody is noted as
being in it any more.
-/

namespace InstancedZones

/-- Where a member went when an instance closed. -/
inductive Departure
  /-- To the exit of the instance. -/
  | toExit
  /-- Home, as far as that was possible. -/
  | toHome
  /-- Nowhere: the member was not connected. -/
  | offline
deriving DecidableEq, Repr

/-- What became of an instance and its members. -/
structure CloseReport where
  /-- The identity it had. -/
  id : InstanceId
  /-- Its name. -/
  name : String
  /-- Why it was closed. -/
  reason : String
  /-- The members sent to the exit. -/
  toExit : List PlayerId
  /-- The members sent home. -/
  toHome : List PlayerId
  /-- The members who were not connected. -/
  offline : List PlayerId
deriving DecidableEq, Repr

namespace CloseReport

/-- The members who were moved, or were to be. -/
def evicted (r : CloseReport) : List PlayerId := r.toExit ++ r.toHome

/-- The members who departed in one way. -/
def departed (departures : List (PlayerId × Departure)) (how : Departure) : List PlayerId :=
  (departures.filter fun d => d.2 == how).map Prod.fst

/-- The report on an instance whose members departed so. -/
def ofDepartures (i : Instance) (reason : String) (departures : List (PlayerId × Departure)) :
    CloseReport where
  id := i.id
  name := i.name
  reason := reason
  toExit := departed departures .toExit
  toHome := departed departures .toHome
  offline := departed departures .offline

end CloseReport

/-- What the members of an instance are told when it closes. -/
def Instance.closingNotice (i : Instance) (reason : String) : String :=
  s!"The instance '{i.name}' has been closed: {reason}."

/-- The reason given by a sweep. -/
def expiredReason : String := "expired"

/-- The registry without an instance and the memberships in it. -/
def Registry.dissolve (r : Registry) (i : Instance) : Registry :=
  { r.remove i.id with members := i.players.toList.foldl Std.ExtTreeMap.erase r.members }

namespace Realm

variable {W : Type}

section Templates

variable [TemplateSource W]

/-- Makes a map template ready. -/
def readyTemplate (name : String) : Action (Realm W) (Except Refusal TemplateStatus) := do
  let cache := (← getRegistry).templates
  let (verdict, cache) ← onWorld (cache.ensureLoaded name)
  modifyRegistry ({ · with templates := cache })
  return verdict

/-- What is recorded of a new instance. -/
def createdEvent (i : Instance) (status : TemplateStatus) : Event :=
  .info "instance created"
    ([("instance_id", i.id.label), ("name", i.name), ("template", i.mapTemplate),
      ("status", status.label)] ++
    Event.optional "duration_secs" (i.endsAt.map fun ending => s!"{(ending.since i.startedAt).secs}"))

/-- Opens an instance at the time `now`. If its map template cannot be made
ready, nothing is opened and no identity is used up. -/
def create (b : Blueprint) (now : Timestamp) : Action (Realm W) (Except Refusal InstanceId) := do
  match ← readyTemplate b.mapTemplate with
  | .error refusal => return .error refusal
  | .ok status =>
    let id := (← getRegistry).freeId
    let i := Instance.ofBlueprint id b now
    Action.recordAll (Instance.complaints id b now)
    Action.record (createdEvent i status)
    modifyRegistry (·.add i)
    return .ok id

end Templates

variable [World W]

/-- Tries to send a member to the exit of an instance. -/
def leadOut (i : Instance) (player : PlayerId) : Action W Bool := do
  if i.exit.isValid then
    let outcome ← World.relocate player i.exit true
    if !outcome.succeeded then
      Action.record (.warn "exit relocation failed, sending home"
        [("instance_id", i.id.label), ("player_id", player.label), ("exit", i.exit.label),
         ("reason", outcome.message)])
    return outcome.succeeded
  else return false

/-- Sends a member home. -/
def sendHome (i : Instance) (player : PlayerId) (home : Position) : Action W Unit := do
  let outcome ← World.relocate player home false
  if !outcome.succeeded then
    Action.record (.warn "home relocation failed"
      [("instance_id", i.id.label), ("player_id", player.label), ("home", home.label),
       ("reason", outcome.message)])

/-- Sends one member away. -/
def evict (i : Instance) (notice : String) (player : PlayerId) : Action W Departure := do
  match ← World.resolve player with
  | none =>
    World.setInstance player none
    return .offline
  | some info =>
    let out ← leadOut i player
    if !out then sendHome i player info.home
    World.sendNotice player notice
    World.setInstance player none
    return if out then .toExit else .toHome

/-- Sends members away, one after the other. -/
def evictAll (i : Instance) (notice : String) :
    List PlayerId → Action W (List (PlayerId × Departure))
  | [] => return []
  | player :: rest => do
    let how ← evict i notice player
    return (player, how) :: (← evictAll i notice rest)

/-- Closes an instance. -/
def close (id : InstanceId) (reason : String) : Action (Realm W) (Except Refusal CloseReport) := do
  match (← getRegistry).instances[id]? with
  | none => return .error (.notFound id)
  | some i =>
    let members := i.players.toList
    Action.record (.info "closing instance"
      [("instance_id", id.label), ("name", i.name), ("reason", reason),
       ("members", s!"{members.length}")])
    let departures ← onWorld (evictAll i (i.closingNotice reason) members)
    let report := CloseReport.ofDepartures i reason departures
    modifyRegistry (·.dissolve i)
    Action.record (.info "instance closed"
      [("instance_id", id.label), ("to_exit", s!"{report.toExit.length}"),
       ("to_home", s!"{report.toHome.length}"), ("offline", s!"{report.offline.length}")])
    return .ok report

/-- Closes instances, one after the other, and gives the reports on those that
were open. -/
def closeEach (reason : String) : List InstanceId → Action (Realm W) (List CloseReport)
  | [] => return []
  | id :: rest => do
    match ← close id reason with
    | .error _ => closeEach reason rest
    | .ok report => return report :: (← closeEach reason rest)

/-- Closes the instances whose end has come at the time `now`. -/
def sweepExpired (now : Timestamp) : Action (Realm W) (List CloseReport) := do
  let registry ← getRegistry
  match registry.expiredAt now with
  | [] =>
    Action.record (.trace "expiry sweep: nothing expired"
      [("open", s!"{registry.instances.size}")])
    return []
  | expired =>
    Action.record (.info "expiry sweep closing instances" [("count", s!"{expired.length}")])
    closeEach expiredReason expired

end Realm

end InstancedZones
