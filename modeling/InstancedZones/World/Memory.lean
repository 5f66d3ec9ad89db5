import InstancedZones.World.Basic
import InstancedZones.Path

/-!
# A world in memory

A world made of tables: players, parties, template files, the files that
cannot be merged, the positions that refuse whoever is sent there. It keeps a
record of every file merged and every move made. Files are told apart as
paths, not as texts.

A template file need not be registered to be there: it may also lie on the disk
of the machine. What lies there is not for the world to say, so it is a
parameter, and may be told from one text of a path to another.
-/

namespace InstancedZones

/-- A player character of a world in memory. -/
structure PlayerRecord where
  /-- The player's level. -/
  level : UInt32
  /-- Whether the player is connected. -/
  online : Bool
  /-- Where the player stands. -/
  position : Position
  /-- Where the player lives. -/
  home : Position
  /-- The instance noted for the player. -/
  instance? : Option InstanceId
  /-- The notices sent to the player, oldest first. -/
  notices : List String
deriving DecidableEq, Repr

/-- A connected player at home, in no instance and without notices. -/
def PlayerRecord.fresh (level : UInt32) (home : Position) : PlayerRecord where
  level := level
  online := true
  position := home
  home := home
  instance? := none
  notices := []

/-- A world held in memory. -/
structure MemoryWorld where
  /-- The players. -/
  players : Std.ExtTreeMap PlayerId PlayerRecord
  /-- For each player in a party, the others in it. -/
  parties : Std.ExtTreeMap PlayerId (List PlayerId)
  /-- The template files that are registered. -/
  templates : List String
  /-- The template files that cannot be merged. -/
  broken : List String
  /-- The files merged so far, oldest first. -/
  merged : List String
  /-- The positions that refuse a move, each with what it answers. -/
  blocked : Std.ExtTreeMap Position Relocation
  /-- The moves made so far, oldest first. -/
  relocations : List (PlayerId × Position)
  /-- Whether there is a file on disk at a path. -/
  isFile : String → Bool

namespace MemoryWorld

/-- A world without anything in it, nor on disk. -/
def empty : MemoryWorld where
  players := ∅
  parties := ∅
  templates := []
  broken := []
  merged := []
  blocked := ∅
  relocations := []
  isFile := fun _ => false

instance : Inhabited MemoryWorld := ⟨empty⟩

/-! ## Setting the scene -/

/-- Adds a connected player, in place of any player with that identity. -/
def addPlayer (w : MemoryWorld) (player : PlayerId) (level : UInt32) (home : Position) :
    MemoryWorld :=
  { w with players := w.players.insert player (.fresh level home) }

/-- Forms a party: the leader has the members in the order given, and each
member has the leader first and then the others in that order. -/
def formParty (w : MemoryWorld) (leader : PlayerId) (members : List PlayerId) : MemoryWorld :=
  let seen (parties : Std.ExtTreeMap PlayerId (List PlayerId)) (member : PlayerId) :=
    parties.insert member (leader :: members.filter (· ≠ member))
  { w with parties := members.foldl seen (w.parties.insert leader members) }

/-- Connects or disconnects a player, if there is such a player. -/
def setOnline (w : MemoryWorld) (player : PlayerId) (online : Bool) : MemoryWorld :=
  { w with players := w.players.modify player ({ · with online }) }

/-- Registers a template file. -/
def addTemplate (w : MemoryWorld) (path : String) : MemoryWorld :=
  { w with templates := path :: w.templates }

/-- Registers a template file that cannot be merged. -/
def addBrokenTemplate (w : MemoryWorld) (path : String) : MemoryWorld :=
  { w with templates := path :: w.templates, broken := path :: w.broken }

/-- Makes every move to a position end in the given way. -/
def block (w : MemoryWorld) (position : Position) (outcome : Relocation) : MemoryWorld :=
  { w with blocked := w.blocked.insert position outcome }

/-- Lets moves to a position take place again. -/
def unblock (w : MemoryWorld) (position : Position) : MemoryWorld :=
  { w with blocked := w.blocked.erase position }

/-! ## The requests -/

/-- The instance noted for a player. -/
def instanceOf (w : MemoryWorld) (player : PlayerId) : Option InstanceId :=
  w.players[player]? >>= PlayerRecord.instance?

/-- What can be seen of a player, if connected. -/
def info? (w : MemoryWorld) (player : PlayerId) : Option PlayerInfo :=
  match w.players[player]? with
  | none => none
  | some record =>
    if record.online then some ⟨record.level, record.instance?, record.home⟩ else none

/-- What becomes of an attempt to move a player. -/
def moveOutcome (w : MemoryWorld) (player : PlayerId) (target : Position) (mustBeOnline : Bool) :
    Relocation × Bool :=
  match w.players[player]? with
  | none => (.notPossible, false)
  | some record =>
    if mustBeOnline && !record.online then (.playerOffline, false)
    else
      match w.blocked[target]? with
      | some outcome => (outcome, false)
      | none => (.moved, true)

/-- Moves a player and writes the move down. -/
def move (w : MemoryWorld) (player : PlayerId) (target : Position) : MemoryWorld :=
  { w with
    players := w.players.modify player ({ · with position := target })
    relocations := w.relocations ++ [(player, target)] }

/-- Notes the instance a player is in, if there is such a player. -/
def noteInstance (w : MemoryWorld) (player : PlayerId) (id : Option InstanceId) : MemoryWorld :=
  { w with players := w.players.modify player ({ · with instance? := id }) }

/-- Gives a player a notice, if there is such a player. -/
def notify (w : MemoryWorld) (player : PlayerId) (text : String) : MemoryWorld :=
  { w with
    players := w.players.modify player fun record =>
      { record with notices := record.notices ++ [text] } }

/-- Whether a file is among some paths. -/
def among (paths : List String) (path : String) : Bool := paths.any (Path.same path)

/-- Whether there is a template file: it is registered, or lies on disk. -/
def hasTemplate (w : MemoryWorld) (path : String) : Bool :=
  among w.templates path || w.isFile path

instance : TemplateSource MemoryWorld where
  templateExists path := do return (← get).hasTemplate path
  mergeTemplate path := do
    if among (← get).broken path then
      return .error (.unmergeable path "corrupt map header")
    Action.record (.debug "memory world merged map file" [("path", path)])
    modify fun w => { w with merged := w.merged ++ [path] }
    return .ok ()

instance : World MemoryWorld where
  relocate player target mustBeOnline := do
    let (outcome, moves) := (← get).moveOutcome player target mustBeOnline
    if moves then modify (move · player target)
    return outcome
  resolve player := do return (← get).info? player
  partyMembers player := do return (← get).parties[player]?
  setInstance player id := modify (noteInstance · player id)
  sendNotice player text := modify (notify · player text)

end MemoryWorld

end InstancedZones
