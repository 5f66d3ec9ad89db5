import InstancedZones.Position
import InstancedZones.Time.Timestamp
import InstancedZones.Decimal.Binary
import InstancedZones.Identity
import InstancedZones.Event

/-!
# Blueprints

What an instance is made from: its name, its map template, how long it lives,
where players enter and leave it, who may come in, and how hard it is. A
blueprint is as its author wrote it; values that make no sense are mended when
an instance is made.
-/

namespace InstancedZones

/-- The factors that make an instance harder or more rewarding. -/
structure Scaling where
  /-- Experience gained. -/
  experience : Binary32
  /-- Loot dropped. -/
  loot : Binary32
  /-- Hit points of creatures. -/
  hitPoints : Binary32
  /-- Damage dealt by creatures. -/
  damage : Binary32
  /-- Armor of creatures. -/
  armor : Binary32
deriving DecidableEq, Repr

namespace Scaling

/-- Nothing is scaled. -/
def neutral : Scaling := ⟨.one, .one, .one, .one, .one⟩

instance : Inhabited Scaling := ⟨neutral⟩

/-- The factors in order. -/
def toList (s : Scaling) : List Binary32 := [s.experience, s.loot, s.hitPoints, s.damage, s.armor]

/-- A factor that can be used: one in place of what is no finite number, and
zero in place of what is less. -/
def mend (x : Binary32) : Binary32 :=
  if !x.isFinite then .one else if x.isBelowZero then .zero else x

/-- What is said about a factor that has to be mended. -/
def complaint (name : String) (x : Binary32) : List Event :=
  if !x.isFinite then [.warn "non-finite scaling factor, using 1.0" [("field", name)]]
  else if x.isBelowZero then [.warn "negative scaling factor, using 0.0" [("field", name)]]
  else []

/-- All factors mended. -/
def mended (s : Scaling) : Scaling :=
  ⟨mend s.experience, mend s.loot, mend s.hitPoints, mend s.damage, mend s.armor⟩

/-- What is said about the factors. -/
def complaints (s : Scaling) : List Event :=
  complaint "experience" s.experience ++ complaint "loot" s.loot ++
    complaint "hit_points" s.hitPoints ++ complaint "damage" s.damage ++ complaint "armor" s.armor

end Scaling

/-- What an instance is made from. -/
structure Blueprint where
  /-- The name shown to players. -/
  name : String
  /-- The map template; the empty name stands for the world as it is. -/
  mapTemplate : String
  /-- The lifetime in seconds; zero is for ever. -/
  durationSecs : UInt64
  /-- How many seconds before the end to warn. -/
  warnAt : List UInt64
  /-- The factors. -/
  scaling : Scaling
  /-- Where players arrive. -/
  entry : Position
  /-- Where players are sent when the instance closes; if unset, home. -/
  exit : Position
  /-- The bosses that are watched. -/
  bosses : Std.ExtTreeSet String
  /-- Whether only parties should enter. -/
  partyOnly : Bool
  /-- The level a player needs. -/
  minLevel : UInt32
  /-- How many seconds to wait before coming back. -/
  cooldownSecs : UInt64
  /-- The seed of generated content. -/
  seed : UInt64
deriving DecidableEq

namespace Blueprint

/-- Half an hour for anyone, with nothing special about it. -/
def plain : Blueprint where
  name := ""
  mapTemplate := ""
  durationSecs := 1800
  warnAt := []
  scaling := .neutral
  entry := .unset
  exit := .unset
  bosses := ∅
  partyOnly := false
  minLevel := 1
  cooldownSecs := 0
  seed := 0

instance : Inhabited Blueprint := ⟨plain⟩

/-- When an instance started at `now` ends: never, if it has no duration or if
the clock has no such time. -/
def endsAt (b : Blueprint) (now : Timestamp) : Option Timestamp :=
  if b.durationSecs = 0 then none else now.add? (.ofSecs b.durationSecs)

end Blueprint

end InstancedZones
