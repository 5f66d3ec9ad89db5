import InstancedZones.Registry.Basic

/-!
# Membership

Players come into an instance alone or with their party, and leave it.

A player may come in if the player is connected, the instance is open, the
level suffices, and the player is in no other open instance; `Registry.verdict`
decides it, in this order. Both sides of a membership count as being in an
instance: the registry's index, and where it says nothing, what the world has
noted. A note of an instance that has closed does not count.

A party comes in as a whole or not at all: at the first member who is declined
those before are taken out again.
-/

namespace InstancedZones

namespace Registry

/-- The open instance, other than `id`, that a player is in. -/
def elsewhere? (r : Registry) (player : PlayerId) (info : PlayerInfo) (id : InstanceId) :
    Option InstanceId :=
  match r.members[player]? <|> info.instance? with
  | none => none
  | some current => if current ≠ id ∧ r.instances.contains current then some current else none

/-- Whether a player, of whom `info` can be seen, may come into an instance. -/
def verdict (r : Registry) (player : PlayerId) (info : Option PlayerInfo) (id : InstanceId) :
    Except Refusal Unit :=
  match info with
  | none => .error (.invalidPlayer player)
  | some info =>
    match r.instances[id]? with
    | none => .error (.notFound id)
    | some i =>
      if info.level < i.minLevel then .error (.levelTooLow player info.level i.minLevel)
      else
        match r.elsewhere? player info id with
        | some current => .error (.alreadyBound player current)
        | none => .ok ()

end Registry

/-- What is recorded when a player is not let in. -/
def Refusal.bindEvents (id : InstanceId) : Refusal → List Event
  | .levelTooLow player level required =>
    [.debug "bind rejected: level too low"
      [("instance_id", id.label), ("player_id", player.label), ("level", s!"{level}"),
       ("required", s!"{required}")]]
  | .alreadyBound player current =>
    [.debug "bind rejected: already bound elsewhere"
      [("instance_id", id.label), ("player_id", player.label), ("current", current.label)]]
  | _ => []

namespace Realm

variable {W : Type} [World W]

/-- Lets a player into an instance. -/
def bindPlayer (player : PlayerId) (id : InstanceId) : Action (Realm W) (Except Refusal Unit) := do
  let info ← onWorld (World.resolve player)
  match (← getRegistry).verdict player info id with
  | .error refusal =>
    Action.recordAll (refusal.bindEvents id)
    return .error refusal
  | .ok () =>
    modifyRegistry (·.enroll player id)
    onWorld (World.setInstance player (some id))
    Action.record (.debug "player bound"
      [("instance_id", id.label), ("player_id", player.label)])
    return .ok ()

/-- Takes a player out of the instance the player is in, and tells whether
there was one. -/
def playerLeave (player : PlayerId) : Action (Realm W) Bool := do
  match (← getRegistry).instanceOf player with
  | none => return false
  | some id =>
    modifyRegistry (·.withdraw player id)
    onWorld (World.setInstance player none)
    Action.record (.debug "player left instance"
      [("instance_id", id.label), ("player_id", player.label)])
    return true

/-- Takes several players out, one after the other. -/
def release : List PlayerId → Action (Realm W) Unit
  | [] => return ()
  | player :: rest => do
    let _ ← playerLeave player
    release rest

/-- Lets the players of a party in, one after the other, those of `bound` being
in already. At the first who is declined, all are taken out again. -/
def bindAll (leader : PlayerId) (id : InstanceId) :
    List PlayerId → List PlayerId → Action (Realm W) (Except Refusal Unit)
  | bound, [] => do
    Action.record (.info "party bound"
      [("instance_id", id.label), ("leader", leader.label), ("players", s!"{bound.length}")])
    return .ok ()
  | bound, player :: rest => do
    match ← bindPlayer player id with
    | .ok () => bindAll leader id (bound ++ [player]) rest
    | .error refusal =>
      Action.record (.warn "party bind failed, unbinding party"
        [("instance_id", id.label), ("leader", leader.label), ("failed", player.label),
         ("unwound", s!"{bound.length}"), ("reason", refusal.message)])
      release bound
      return .error refusal

/-- Lets a player's whole party into an instance: the player first, then the
others in the order of the party, each once. A player without a party comes
alone. -/
def bindParty (leader : PlayerId) (id : InstanceId) :
    Action (Realm W) (Except Refusal Unit) := do
  match ← onWorld (World.partyMembers leader) with
  | none => bindPlayer leader id
  | some members => bindAll leader id [] (leader :: members).eraseDups

end Realm

end InstancedZones
