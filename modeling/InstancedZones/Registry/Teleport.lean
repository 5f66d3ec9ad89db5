import InstancedZones.Registry.Membership
import InstancedZones.Registry.Lifecycle

/-!
# Teleporting into an instance

A player who is teleported into an instance is let in, the map template is made
ready, and the player is moved to the entry. If the template or the move fails,
the player is taken out again, so nobody is left who is in but not there.
-/

namespace InstancedZones.Realm

variable {W : Type} [World W]

/-- Lets a player into an instance and moves the player to its entry. -/
def teleportInto (id : InstanceId) (player : PlayerId) :
    Action (Realm W) (Except Refusal Unit) := do
  match ← bindPlayer player id with
  | .error refusal => return .error refusal
  | .ok () =>
    match (← getRegistry).instances[id]? with
    | none => return .error (.notFound id)
    | some i =>
      match ← readyTemplate i.mapTemplate with
      | .error refusal =>
        Action.record (.warn "teleport aborted: map template not ready"
          [("instance_id", id.label), ("player_id", player.label), ("reason", refusal.message)])
        let _ ← playerLeave player
        return .error refusal
      | .ok _ =>
        let outcome ← onWorld (World.relocate player i.entry true)
        if outcome.succeeded then
          Action.record (.info "player teleported in"
            [("instance_id", id.label), ("player_id", player.label), ("entry", i.entry.label)])
          return .ok ()
        else
          Action.record (.warn "teleport aborted: relocation refused"
            [("instance_id", id.label), ("player_id", player.label), ("entry", i.entry.label),
             ("reason", outcome.message)])
          let _ ← playerLeave player
          return .error (.relocation outcome)

end InstancedZones.Realm
