import InstancedZones.Identity
import InstancedZones.Position
import InstancedZones.Action

/-!
# The shared world

The registry of instances does not own the game world. It asks it: whether a
map template exists, to merge one, to move a player, who a player is and with
whom they play, to note the instance a player is in, and to send a notice.

`World` lists these requests. Each is an action on the world's own state, the
questions too, so a world may answer the same question differently from one
call to the next; what is proved for every world holds of such a world as
well.
-/

namespace InstancedZones

/-- What became of an attempt to move a player. -/
inductive Relocation
  /-- The player stands at the target. -/
  | moved
  /-- The move cannot be made. -/
  | notPossible
  /-- The player was required to be online and is not. -/
  | playerOffline
  /-- There is no room at the target. -/
  | destinationOccupied
  /-- The world refuses in its own words. -/
  | other (text : String)
deriving DecidableEq, Repr

namespace Relocation

/-- Only a move that took place is a success. -/
def succeeded (r : Relocation) : Bool := r == .moved

/-- What the player is told. -/
def message : Relocation → String
  | .moved => "no error"
  | .notPossible => "sorry, not possible"
  | .playerOffline => "player is not online"
  | .destinationOccupied => "there is not enough room"
  | .other text => text

@[simp] theorem succeeded_iff {r : Relocation} : r.succeeded = true ↔ r = .moved := by
  simp [succeeded]

end Relocation

/-- Why a map template could not become part of the world. -/
inductive MergeError
  /-- The file was found and could not be merged. -/
  | unmergeable (path reason : String)
  /-- The file could not be read. -/
  | unreadable (path reason : String)
deriving DecidableEq, Repr

namespace MergeError

/-- The wording of the error. -/
def message : MergeError → String
  | .unmergeable path reason => s!"failed to merge map file '{path}': {reason}"
  | .unreadable path reason => s!"failed to read map file '{path}': {reason}"

/-- The wording of the error, and of the one that caused it if there is one. -/
def chain : MergeError → List String
  | .unmergeable path reason => [(unmergeable path reason).message]
  | .unreadable path reason => [(unreadable path reason).message, reason]

end MergeError

/-- What can be seen of a connected player. -/
structure PlayerInfo where
  /-- The player's level. -/
  level : UInt32
  /-- The instance the world has noted for the player. -/
  instance? : Option InstanceId
  /-- Where the player is sent when there is nowhere else. -/
  home : Position
deriving DecidableEq, Repr

/-- A place map templates come from. -/
class TemplateSource (W : Type) where
  /-- Whether there is a template file at a path. -/
  templateExists (path : String) : Action W Bool
  /-- Makes the template file at a path part of the world. -/
  mergeTemplate (path : String) : Action W (Except MergeError Unit)

/-- All that the registry asks of the game world. -/
class World (W : Type) extends TemplateSource W where
  /-- Moves a player, who may be required to be online. -/
  relocate (player : PlayerId) (target : Position) (mustBeOnline : Bool) : Action W Relocation
  /-- Looks up a connected player. -/
  resolve (player : PlayerId) : Action W (Option PlayerInfo)
  /-- The other members of a player's party, if the player has one. -/
  partyMembers (player : PlayerId) : Action W (Option (List PlayerId))
  /-- Notes the instance a player is in. -/
  setInstance (player : PlayerId) (id : Option InstanceId) : Action W Unit
  /-- Sends a player a notice. -/
  sendNotice (player : PlayerId) (text : String) : Action W Unit

end InstancedZones
