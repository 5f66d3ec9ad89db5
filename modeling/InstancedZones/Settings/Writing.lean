import InstancedZones.Datum
import InstancedZones.Settings.Basic

/-!
# Settings as data

Settings, and the parts they are made of, as the data to be written: every value under its
name, in the order in which they are declared. A factor is written with 64 bits, a set of
names as a list in order.
-/

namespace InstancedZones

/-- The members of a position. -/
def Position.pairs (p : Position) : List (String × Datum) :=
  [("x", .whole p.x.toNat), ("y", .whole p.y.toNat), ("z", .whole p.z.toNat)]

/-- The members of scaling factors. -/
def Scaling.pairs (s : Scaling) : List (String × Datum) :=
  [("experience", .real s.experience.toBinary64), ("loot", .real s.loot.toBinary64),
   ("hit_points", .real s.hitPoints.toBinary64), ("damage", .real s.damage.toBinary64),
   ("armor", .real s.armor.toBinary64)]

/-- The members of a blueprint. -/
def Blueprint.pairs (b : Blueprint) : List (String × Datum) :=
  [("name", .text b.name),
   ("map_template", .text b.mapTemplate),
   ("duration_secs", .whole b.durationSecs.toNat),
   ("warn_at", .list (b.warnAt.map fun secs => .whole secs.toNat)),
   ("scaling", .record b.scaling.pairs),
   ("entry", .record b.entry.pairs),
   ("exit", .record b.exit.pairs),
   ("bosses", .list (b.bosses.toList.map .text)),
   ("party_only", .truth b.partyOnly),
   ("min_level", .whole b.minLevel.toNat),
   ("cooldown_secs", .whole b.cooldownSecs.toNat),
   ("seed", .whole b.seed.toNat)]

/-- The members of the place of the templates. -/
def TemplateSettings.pairs (t : TemplateSettings) : List (String × Datum) :=
  [("maps_dir", .text t.mapsDir), ("map_extension", .text t.mapExtension)]

/-- The members of all settings. -/
def Settings.pairs (s : Settings) : List (String × Datum) :=
  [("sweep_interval_ms", .whole s.sweepIntervalMs.toNat),
   ("sweep_policy", .text s.sweepPolicy.keyword),
   ("sweep_jitter_ms", .whole s.sweepJitterMs.toNat),
   ("command_queue", .whole s.commandQueue.toNat),
   ("log_filter", .text s.logFilter),
   ("manager", .record s.templates.pairs),
   ("instance", .list (s.blueprints.map fun b => .record b.pairs))]

end InstancedZones
