import InstancedZones.Blueprint

/-!
# Instances

The record of one open instance: what its blueprint said, put in order, the
times it starts and ends, and the players who are in it.
-/

namespace InstancedZones

/-- Drops every value that repeats the one before it. -/
def dropRepeats {α : Type} [DecidableEq α] : List α → List α
  | [] => []
  | [a] => [a]
  | a :: b :: rest => if a = b then dropRepeats (b :: rest) else a :: dropRepeats (b :: rest)

/-- An open instance. -/
structure Instance where
  /-- Its identity. -/
  id : InstanceId
  /-- The name shown to players. -/
  name : String
  /-- Its map template. -/
  mapTemplate : String
  /-- When it was made. -/
  startedAt : Timestamp
  /-- When it ends, if it does. -/
  endsAt : Option Timestamp
  /-- How many seconds before the end to warn, each once, the most first. -/
  warnAt : List UInt64
  /-- The factors, mended. -/
  scaling : Scaling
  /-- Where players arrive. -/
  entry : Position
  /-- Where players are sent when it closes. -/
  exit : Position
  /-- The bosses that are watched. -/
  bosses : Std.ExtTreeSet String
  /-- Whether only parties should enter. -/
  partyOnly : Bool
  /-- The level a player needs. -/
  minLevel : UInt32
  /-- How long to wait before coming back. -/
  cooldown : Duration
  /-- The seed of generated content. -/
  seed : UInt64
  /-- The players who are in it. -/
  players : Std.ExtTreeSet PlayerId
  /-- The creatures in it. -/
  creatures : List UInt32
deriving DecidableEq

/-- What others are told about an instance. -/
structure InstanceSummary where
  /-- Its identity. -/
  id : InstanceId
  /-- The name shown to players. -/
  name : String
  /-- Its map template. -/
  mapTemplate : String
  /-- When it was made. -/
  startedAt : Timestamp
  /-- When it ends, if it does. -/
  endsAt : Option Timestamp
  /-- The level a player needs. -/
  minLevel : UInt32
  /-- Whether only parties should enter. -/
  partyOnly : Bool
  /-- The players who are in it, in order. -/
  players : List PlayerId
deriving DecidableEq

/-- Warning times in order, the most first and each once. -/
def warnOrder (warnAt : List UInt64) : List UInt64 :=
  dropRepeats (warnAt.mergeSort fun a b => decide (b ≤ a))

namespace Instance

/-- The instance that a blueprint makes. -/
def ofBlueprint (id : InstanceId) (b : Blueprint) (now : Timestamp) : Instance where
  id := id
  name := b.name
  mapTemplate := b.mapTemplate
  startedAt := now
  endsAt := b.endsAt now
  warnAt := warnOrder b.warnAt
  scaling := b.scaling.mended
  entry := b.entry
  exit := b.exit
  bosses := b.bosses
  partyOnly := b.partyOnly
  minLevel := b.minLevel
  cooldown := .ofSecs b.cooldownSecs
  seed := b.seed
  players := ∅
  creatures := []

/-- What is said about a blueprint that an instance cannot follow to the letter. -/
def complaints (id : InstanceId) (b : Blueprint) (now : Timestamp) : List Event :=
  (if b.durationSecs ≠ 0 ∧ b.endsAt now = none then
    [.warn "instance duration out of range, instance will not expire"
      [("instance_id", id.label), ("duration_secs", s!"{b.durationSecs}")]]
  else []) ++ b.scaling.complaints

/-- Whether the end has come. -/
def isExpired (i : Instance) (now : Timestamp) : Bool :=
  match i.endsAt with
  | none => false
  | some ending => ending ≤ now

/-- The time left, if the instance ends at all. -/
def remaining (i : Instance) (now : Timestamp) : Option Duration := i.endsAt.map (·.since now)

/-- What others are told. -/
def summary (i : Instance) : InstanceSummary where
  id := i.id
  name := i.name
  mapTemplate := i.mapTemplate
  startedAt := i.startedAt
  endsAt := i.endsAt
  minLevel := i.minLevel
  partyOnly := i.partyOnly
  players := i.players.toList

end Instance

end InstancedZones
