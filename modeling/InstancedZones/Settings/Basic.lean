import InstancedZones.Blueprint
import InstancedZones.Cadence

/-!
# Settings

What a server operator can set: how often expired instances are swept up, how
many commands may wait, what is recorded, where map templates are found, and
the blueprints.
-/

namespace InstancedZones

/-- Where map templates are found. -/
structure TemplateSettings where
  /-- The directory of the template files. -/
  mapsDir : String
  /-- The file extension that template names may leave out. -/
  mapExtension : String
deriving DecidableEq, Repr

/-- The usual place and extension. -/
def TemplateSettings.usual : TemplateSettings := ⟨"data/world/instances", "otbm"⟩

instance : Inhabited TemplateSettings := ⟨.usual⟩

/-- All settings. -/
structure Settings where
  /-- How many milliseconds lie between sweeps; zero turns them off. -/
  sweepIntervalMs : UInt64
  /-- What a late sweep does. -/
  sweepPolicy : LatePolicy
  /-- The bound of the random delay before the first sweep, in milliseconds. -/
  sweepJitterMs : UInt64
  /-- How many commands may wait. -/
  commandQueue : UInt64
  /-- What is recorded. -/
  logFilter : String
  /-- Where map templates are found. -/
  templates : TemplateSettings
  /-- The blueprints, in the order they were given. -/
  blueprints : List Blueprint
deriving DecidableEq

namespace Settings

/-- The settings that hold when nothing is set. -/
def usual : Settings where
  sweepIntervalMs := 5000
  sweepPolicy := .skip
  sweepJitterMs := 0
  commandQueue := 256
  logFilter := "info"
  templates := .usual
  blueprints := []

instance : Inhabited Settings := ⟨usual⟩

/-- The place of the first blueprint with a name. -/
def blueprintIndex? (s : Settings) (name : String) : Option Nat :=
  s.blueprints.findIdx? (·.name == name)

/-- The cadence of the sweep. -/
def sweepCadence (s : Settings) : Cadence :=
  { Cadence.everyMillis s.sweepIntervalMs with
    policy := s.sweepPolicy
    jitter := .ofMillis s.sweepJitterMs }

end Settings

end InstancedZones
