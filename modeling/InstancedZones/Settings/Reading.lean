import InstancedZones.Settings.Basic
import InstancedZones.Datum

/-!
# Reading settings

Settings, and the parts they are made of, read from data. What is left out
keeps its usual value, what has an unknown name is passed over, and what is of
the wrong kind or out of range spoils the whole. Only a position must be
complete.
-/

namespace InstancedZones

/-- A position: all of `x`, `y` and `z`. -/
def Position.ofDatum? (dialect : Dialect) (d : Datum) : Option Position := do
  let m ← d.members? dialect 3
  let x ← m.required 0 "x" Datum.uint16?
  let y ← m.required 1 "y" Datum.uint16?
  let z ← m.required 2 "z" Datum.uint8?
  return ⟨x, y, z⟩

/-- Scaling factors. -/
def Scaling.ofDatum? (dialect : Dialect) (d : Datum) : Option Scaling := do
  let m ← d.members? dialect 5
  let usual := Scaling.neutral
  let experience ← m.optional 0 "experience" Datum.binary32? usual.experience
  let loot ← m.optional 1 "loot" Datum.binary32? usual.loot
  let hitPoints ← m.optional 2 "hit_points" Datum.binary32? usual.hitPoints
  let damage ← m.optional 3 "damage" Datum.binary32? usual.damage
  let armor ← m.optional 4 "armor" Datum.binary32? usual.armor
  return ⟨experience, loot, hitPoints, damage, armor⟩

/-- Names, as a set. -/
def bossesOfDatum? (d : Datum) : Option (Std.ExtTreeSet String) :=
  (d.list? Datum.text?).map fun names => Std.ExtTreeSet.ofList names

/-- A blueprint. -/
def Blueprint.ofDatum? (dialect : Dialect) (d : Datum) : Option Blueprint := do
  let m ← d.members? dialect 12
  let usual := Blueprint.plain
  let name ← m.optional 0 "name" Datum.text? usual.name
  let mapTemplate ← m.optional 1 "map_template" Datum.text? usual.mapTemplate
  let durationSecs ← m.optional 2 "duration_secs" Datum.uint64? usual.durationSecs
  let warnAt ← m.optional 3 "warn_at" (Datum.list? Datum.uint64?) usual.warnAt
  let scaling ← m.optional 4 "scaling" (Scaling.ofDatum? dialect) usual.scaling
  let entry ← m.optional 5 "entry" (Position.ofDatum? dialect) usual.entry
  let exit ← m.optional 6 "exit" (Position.ofDatum? dialect) usual.exit
  let bosses ← m.optional 7 "bosses" bossesOfDatum? usual.bosses
  let partyOnly ← m.optional 8 "party_only" Datum.truth? usual.partyOnly
  let minLevel ← m.optional 9 "min_level" Datum.uint32? usual.minLevel
  let cooldownSecs ← m.optional 10 "cooldown_secs" Datum.uint64? usual.cooldownSecs
  let seed ← m.optional 11 "seed" Datum.uint64? usual.seed
  return { name, mapTemplate, durationSecs, warnAt, scaling, entry, exit, bosses, partyOnly,
           minLevel, cooldownSecs, seed }

/-- Where templates are found. -/
def TemplateSettings.ofDatum? (dialect : Dialect) (d : Datum) : Option TemplateSettings := do
  let m ← d.members? dialect 2
  let usual := TemplateSettings.usual
  let mapsDir ← m.optional 0 "maps_dir" Datum.text? usual.mapsDir
  let mapExtension ← m.optional 1 "map_extension" Datum.text? usual.mapExtension
  return { mapsDir, mapExtension }

/-- A policy, by its name. -/
def LatePolicy.ofDatum? (dialect : Dialect) (d : Datum) : Option LatePolicy :=
  d.choice? dialect LatePolicy.keywords

/-- All settings. -/
def Settings.ofDatum? (dialect : Dialect) (d : Datum) : Option Settings := do
  let m ← d.members? dialect 7
  let usual := Settings.usual
  let sweepIntervalMs ← m.optional 0 "sweep_interval_ms" Datum.uint64? usual.sweepIntervalMs
  let sweepPolicy ← m.optional 1 "sweep_policy" (LatePolicy.ofDatum? dialect) usual.sweepPolicy
  let sweepJitterMs ← m.optional 2 "sweep_jitter_ms" Datum.uint64? usual.sweepJitterMs
  let commandQueue ← m.optional 3 "command_queue" Datum.uint64? usual.commandQueue
  let logFilter ← m.optional 4 "log_filter" Datum.text? usual.logFilter
  let templates ← m.optional 5 "manager" (TemplateSettings.ofDatum? dialect) usual.templates
  let blueprints ← m.optional 6 "instance" (Datum.list? (Blueprint.ofDatum? dialect))
    usual.blueprints
  return { sweepIntervalMs, sweepPolicy, sweepJitterMs, commandQueue, logFilter, templates,
           blueprints }

end InstancedZones
