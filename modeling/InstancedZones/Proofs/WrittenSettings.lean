import InstancedZones.Proofs.SettingsLayout
import InstancedZones.Proofs.Sheets
import InstancedZones.Settings.Document

/-!
# Settings that are written are read back

Settings can be written if their numbers fit 64 bits with a sign, and settings that are
written are read back as the settings they were, `Settings.toText_spec`. This holds for
any library that keeps to the format, so it is a statement about the data that settings
are turned into, the lines of that data, and the way back.

The lines of settings are those of a document of sheets: one for the server, with a table
for the place of the templates, and one for each blueprint, with tables for its factors
and positions. So what the document says is the record of these sheets. It is not the
record that was written, since the values have come before the tables, and it is left to
see that each part of the settings is read from its own part of it. No blueprints at all
are a list without items among the values of the server.
-/

namespace InstancedZones

open Toml

/-! ## Reading a part of a record -/

/-- Reading goes on with what has been read. -/
theorem bind_of_eq_some {α β : Type} {x : Option α} {a : α} (h : x = some a) (f : α → Option β) :
    (x >>= f) = f a := by
  rw [h]
  rfl

namespace Datum

/-- A whole number below the bound is read as it is. -/
theorem below?_whole {n bound : Nat} (h : n < bound) : (whole n).below? bound = some n := by
  rw [below?, if_pos ⟨Int.natCast_nonneg n, Int.ofNat_lt.mpr h⟩, Int.toNat_natCast]

theorem uint8?_whole (n : UInt8) : (whole n.toNat).uint8? = some n := by
  rw [uint8?, below?_whole n.toNat_lt, Option.map_some, UInt8.ofNat_toNat]

theorem uint16?_whole (n : UInt16) : (whole n.toNat).uint16? = some n := by
  rw [uint16?, below?_whole n.toNat_lt, Option.map_some, UInt16.ofNat_toNat]

theorem uint32?_whole (n : UInt32) : (whole n.toNat).uint32? = some n := by
  rw [uint32?, below?_whole n.toNat_lt, Option.map_some, UInt32.ofNat_toNat]

theorem uint64?_whole (n : UInt64) : (whole n.toNat).uint64? = some n := by
  rw [uint64?, below?_whole n.toNat_lt, Option.map_some, UInt64.ofNat_toNat]

/-- **A finite factor is read as it was**, though it is written with 64 bits. -/
theorem binary32?_real {x : Binary32} (h : x.isFinite = true) :
    (real x.toBinary64).binary32? = some x := by
  rw [binary32?, Binary32.ofBinary64_toBinary64 h]

/-- A list is read item by item. -/
theorem list?_map {α : Type} {read : Datum → Option α} {write : α → Datum} {xs : List α}
    (h : ∀ x ∈ xs, read (write x) = some x) : (list (xs.map write)).list? read = some xs := by
  rw [list?]
  induction xs with
  | nil => rfl
  | cons x xs ih =>
    rw [List.map_cons, List.mapM_cons, h x List.mem_cons_self,
      ih fun x hmem => h x (List.mem_cons_of_mem _ hmem)]
    rfl

namespace Members

variable {α : Type} {entries : List (String × Datum)} {place : Nat} {name : String}
  {read : Datum → Option α} {d : Datum} {x : α}

/-- A member that is there is read. -/
theorem optional_named (default : α) (h : entries.lookup name = some d) (hread : read d = some x) :
    (named entries).optional place name read default = some x := by
  have hget : (named entries).get? place name = some d := h
  rw [optional, hget]
  exact hread

theorem required_named (h : entries.lookup name = some d) (hread : read d = some x) :
    (named entries).required place name read = some x := by
  have hget : (named entries).get? place name = some d := h
  rw [required, hget]
  exact hread

end Members

end Datum

/-! ## The record that settings are written as -/

/-- The sheet of a blueprint. -/
def Blueprint.sheet (b : Blueprint) : Sheet where
  pairs :=
    [("name", .text b.name),
     ("map_template", .text b.mapTemplate),
     ("duration_secs", .whole b.durationSecs.toNat),
     ("warn_at", .list (b.warnAt.map fun secs => .whole secs.toNat)),
     ("bosses", .list (b.bosses.toList.map .text)),
     ("party_only", .truth b.partyOnly),
     ("min_level", .whole b.minLevel.toNat),
     ("cooldown_secs", .whole b.cooldownSecs.toNat),
     ("seed", .whole b.seed.toNat)]
  tables := [("scaling", b.scaling.pairs), ("entry", b.entry.pairs), ("exit", b.exit.pairs)]

/-- The sheet of the server. -/
def Settings.sheet (s : Settings) : Sheet where
  pairs :=
    [("sweep_interval_ms", .whole s.sweepIntervalMs.toNat),
     ("sweep_policy", .text s.sweepPolicy.keyword),
     ("sweep_jitter_ms", .whole s.sweepJitterMs.toNat),
     ("command_queue", .whole s.commandQueue.toNat),
     ("log_filter", .text s.logFilter)] ++
    (if s.blueprints.isEmpty then [("instance", .list [])] else [])
  tables := [("manager", s.templates.pairs)]

/-- The lines of a blueprint are those of its sheet. -/
theorem Blueprint.map_line_outLines (b : Blueprint) :
    b.outLines.map OutLine.line = elementLines "instance" b.sheet := by
  rw [elementLines, Sheet.lines, sheet, ← b.datum_warnAt, ← b.datum_bosses]
  rfl

/-- The lines of settings are those of a document of sheets. -/
theorem Settings.map_line_outLines (s : Settings) :
    s.outLines.map OutLine.line
      = s.sheet.lines [] ++
        (s.blueprints.map Blueprint.sheet).flatMap (elementLines "instance") := by
  have hblueprints : (s.blueprints.flatMap Blueprint.outLines).map OutLine.line
      = (s.blueprints.map Blueprint.sheet).flatMap (elementLines "instance") := by
    rw [List.map_flatMap, List.flatMap_map]
    exact congrArg s.blueprints.flatMap (funext Blueprint.map_line_outLines)
  rw [outLines, List.map_append, hblueprints, Sheet.lines, sheet]
  cases s.blueprints.isEmpty <;> rfl

/-- No name is given twice for a blueprint. -/
theorem Blueprint.sheet_distinct (b : Blueprint) : b.sheet.Distinct where
  top := by
    show ["name", "map_template", "duration_secs", "warn_at", "bosses", "party_only", "min_level",
      "cooldown_secs", "seed", "scaling", "entry", "exit"].Nodup
    decide
  below t hmem := by
    obtain rfl | rfl | rfl : t = ("scaling", b.scaling.pairs) ∨ t = ("entry", b.entry.pairs) ∨
      t = ("exit", b.exit.pairs) := by simpa [sheet] using hmem
    · show ["experience", "loot", "hit_points", "damage", "armor"].Nodup
      decide
    · show ["x", "y", "z"].Nodup
      decide
    · show ["x", "y", "z"].Nodup
      decide

/-- Nor for the server, and the list of the blueprints has a name of its own. -/
theorem Settings.sheet_distinct (s : Settings) :
    s.sheet.Distinct ∧ (s.blueprints ≠ [] → "instance" ∉ names s.sheet.entries) := by
  have hbelow : ∀ t ∈ s.sheet.tables, (names t.2).Nodup := fun t hmem => by
    obtain rfl := List.mem_singleton.mp hmem
    show ["maps_dir", "map_extension"].Nodup
    decide
  cases hempty : s.blueprints.isEmpty with
  | true =>
    have htop : names s.sheet.pairs ++ names s.sheet.tables = ["sweep_interval_ms", "sweep_policy",
        "sweep_jitter_ms", "command_queue", "log_filter", "instance", "manager"] := by
      rw [sheet, hempty]
      rfl
    exact ⟨⟨htop ▸ by decide, hbelow⟩, fun hne => absurd (List.isEmpty_iff.mp hempty) hne⟩
  | false =>
    have htop : names s.sheet.pairs ++ names s.sheet.tables = ["sweep_interval_ms", "sweep_policy",
        "sweep_jitter_ms", "command_queue", "log_filter", "manager"] := by
      rw [sheet, hempty]
      rfl
    refine ⟨⟨htop ▸ by decide, hbelow⟩, fun _ => ?_⟩
    rw [Sheet.entries, names_append, names_leaves, names_branches, htop]
    decide

/-! ## What is written is read -/

section Reading

open Datum Members

theorem Position.ofDatum?_pairs (p : Position) :
    Position.ofDatum? .document (.record p.pairs) = some p := by
  have hx : (named p.pairs).required 0 "x" uint16? = some p.x :=
    required_named rfl (uint16?_whole p.x)
  have hy : (named p.pairs).required 1 "y" uint16? = some p.y :=
    required_named rfl (uint16?_whole p.y)
  have hz : (named p.pairs).required 2 "z" uint8? = some p.z :=
    required_named rfl (uint8?_whole p.z)
  rw [ofDatum?, members?, bind_of_eq_some rfl]
  rw [bind_of_eq_some hx, bind_of_eq_some hy, bind_of_eq_some hz]
  rfl

theorem Scaling.ofDatum?_pairs {s : Scaling} (h : ∀ x ∈ s.toList, x.isFinite = true) :
    Scaling.ofDatum? .document (.record s.pairs) = some s := by
  simp only [toList, List.forall_mem_cons, List.not_mem_nil, false_implies, implies_true,
    and_true] at h
  obtain ⟨hexperience, hloot, hhitPoints, hdamage, harmor⟩ := h
  have hfirst : (named s.pairs).optional 0 "experience" binary32? neutral.experience
      = some s.experience := optional_named _ rfl (binary32?_real hexperience)
  have hsecond : (named s.pairs).optional 1 "loot" binary32? neutral.loot = some s.loot :=
    optional_named _ rfl (binary32?_real hloot)
  have hthird : (named s.pairs).optional 2 "hit_points" binary32? neutral.hitPoints
      = some s.hitPoints := optional_named _ rfl (binary32?_real hhitPoints)
  have hfourth : (named s.pairs).optional 3 "damage" binary32? neutral.damage = some s.damage :=
    optional_named _ rfl (binary32?_real hdamage)
  have hfifth : (named s.pairs).optional 4 "armor" binary32? neutral.armor = some s.armor :=
    optional_named _ rfl (binary32?_real harmor)
  rw [ofDatum?, members?, bind_of_eq_some rfl]
  dsimp only
  rw [bind_of_eq_some hfirst, bind_of_eq_some hsecond, bind_of_eq_some hthird,
    bind_of_eq_some hfourth, bind_of_eq_some hfifth]
  rfl

theorem TemplateSettings.ofDatum?_pairs (t : TemplateSettings) :
    TemplateSettings.ofDatum? .document (.record t.pairs) = some t := by
  have hdir : (named t.pairs).optional 0 "maps_dir" text? usual.mapsDir = some t.mapsDir :=
    optional_named _ rfl rfl
  have hextension : (named t.pairs).optional 1 "map_extension" text? usual.mapExtension
      = some t.mapExtension := optional_named _ rfl rfl
  rw [ofDatum?, members?, bind_of_eq_some rfl]
  dsimp only
  rw [bind_of_eq_some hdir, bind_of_eq_some hextension]
  rfl

/-- A set of names is the set of the names in it. -/
theorem bossesOfDatum?_toList (names : Std.ExtTreeSet String) :
    bossesOfDatum? (.list (names.toList.map .text)) = some names := by
  have hset : Std.ExtTreeSet.ofList names.toList = names := by
    refine Std.ExtTreeSet.ext_contains fun name => ?_
    rw [Std.ExtTreeSet.contains_ofList, Std.ExtTreeSet.contains_toList]
  have hnames : (list (names.toList.map .text)).list? text? = some names.toList :=
    list?_map fun _ _ => rfl
  rw [bossesOfDatum?, hnames, Option.map_some, hset]

theorem LatePolicy.ofDatum?_keyword (p : LatePolicy) :
    LatePolicy.ofDatum? .document (.text p.keyword) = some p := by
  cases p <;> rfl

/-- **A blueprint is read from its sheet**, if its factors are finite. -/
theorem Blueprint.ofDatum?_sheet {b : Blueprint} (h : ∀ x ∈ b.scaling.toList, x.isFinite = true) :
    Blueprint.ofDatum? .document (.record b.sheet.record) = some b := by
  have hname : (named b.sheet.record).optional 0 "name" text? plain.name = some b.name :=
    optional_named _ rfl rfl
  have hmap : (named b.sheet.record).optional 1 "map_template" text? plain.mapTemplate
      = some b.mapTemplate := optional_named _ rfl rfl
  have hduration : (named b.sheet.record).optional 2 "duration_secs" uint64? plain.durationSecs
      = some b.durationSecs := optional_named _ rfl (uint64?_whole _)
  have hwarn : (named b.sheet.record).optional 3 "warn_at" (list? uint64?) plain.warnAt
      = some b.warnAt := optional_named _ rfl (list?_map fun secs _ => uint64?_whole secs)
  have hscaling : (named b.sheet.record).optional 4 "scaling" (Scaling.ofDatum? .document)
      plain.scaling = some b.scaling := optional_named _ rfl (Scaling.ofDatum?_pairs h)
  have hentry : (named b.sheet.record).optional 5 "entry" (Position.ofDatum? .document)
      plain.entry = some b.entry := optional_named _ rfl (Position.ofDatum?_pairs _)
  have hexit : (named b.sheet.record).optional 6 "exit" (Position.ofDatum? .document)
      plain.exit = some b.exit := optional_named _ rfl (Position.ofDatum?_pairs _)
  have hbosses : (named b.sheet.record).optional 7 "bosses" bossesOfDatum? plain.bosses
      = some b.bosses := optional_named _ rfl (bossesOfDatum?_toList _)
  have hparty : (named b.sheet.record).optional 8 "party_only" truth? plain.partyOnly
      = some b.partyOnly := optional_named _ rfl rfl
  have hlevel : (named b.sheet.record).optional 9 "min_level" uint32? plain.minLevel
      = some b.minLevel := optional_named _ rfl (uint32?_whole _)
  have hcooldown : (named b.sheet.record).optional 10 "cooldown_secs" uint64? plain.cooldownSecs
      = some b.cooldownSecs := optional_named _ rfl (uint64?_whole _)
  have hseed : (named b.sheet.record).optional 11 "seed" uint64? plain.seed = some b.seed :=
    optional_named _ rfl (uint64?_whole _)
  rw [ofDatum?, members?, bind_of_eq_some rfl]
  dsimp only
  rw [bind_of_eq_some hname, bind_of_eq_some hmap, bind_of_eq_some hduration,
    bind_of_eq_some hwarn, bind_of_eq_some hscaling, bind_of_eq_some hentry,
    bind_of_eq_some hexit, bind_of_eq_some hbosses, bind_of_eq_some hparty,
    bind_of_eq_some hlevel, bind_of_eq_some hcooldown, bind_of_eq_some hseed]
  rfl

/-- The record that settings are written as. -/
def Settings.record (s : Settings) : List (String × Datum) :=
  s.sheet.record ++
    if s.blueprints.map Blueprint.sheet = [] then []
    else [("instance",
      .list ((s.blueprints.map Blueprint.sheet).map fun sheet => .record sheet.record))]

/-- The list of the blueprints is found in the record, also if there are none. -/
theorem Settings.lookup_instance (s : Settings) :
    s.record.lookup "instance"
      = some (.list (s.blueprints.map fun b => .record b.sheet.record)) := by
  rw [record, sheet]
  cases s.blueprints with
  | nil => rfl
  | cons b bs =>
    rw [List.map_map]
    rfl

/-- So is the place of the templates. -/
theorem Settings.lookup_manager (s : Settings) :
    s.record.lookup "manager" = some (.record s.templates.pairs) := by
  rw [record, sheet]
  cases s.blueprints <;> rfl

/-- **Settings are read from their record**, if all factors are finite. -/
theorem Settings.ofDatum?_record {s : Settings}
    (h : ∀ b ∈ s.blueprints, ∀ x ∈ b.scaling.toList, x.isFinite = true) :
    Settings.ofDatum? .document (.record s.record) = some s := by
  have hinterval : (named s.record).optional 0 "sweep_interval_ms" uint64? usual.sweepIntervalMs
      = some s.sweepIntervalMs := optional_named _ rfl (uint64?_whole _)
  have hpolicy : (named s.record).optional 1 "sweep_policy" (LatePolicy.ofDatum? .document)
      usual.sweepPolicy = some s.sweepPolicy :=
    optional_named _ rfl (LatePolicy.ofDatum?_keyword _)
  have hjitter : (named s.record).optional 2 "sweep_jitter_ms" uint64? usual.sweepJitterMs
      = some s.sweepJitterMs := optional_named _ rfl (uint64?_whole _)
  have hqueue : (named s.record).optional 3 "command_queue" uint64? usual.commandQueue
      = some s.commandQueue := optional_named _ rfl (uint64?_whole _)
  have hfilter : (named s.record).optional 4 "log_filter" text? usual.logFilter
      = some s.logFilter := optional_named _ rfl rfl
  have htemplates : (named s.record).optional 5 "manager" (TemplateSettings.ofDatum? .document)
      usual.templates = some s.templates :=
    optional_named _ s.lookup_manager (TemplateSettings.ofDatum?_pairs _)
  have hblueprints : (named s.record).optional 6 "instance" (list? (Blueprint.ofDatum? .document))
      usual.blueprints = some s.blueprints :=
    optional_named _ s.lookup_instance (list?_map fun b hmem => Blueprint.ofDatum?_sheet (h b hmem))
  rw [ofDatum?, members?, bind_of_eq_some rfl]
  dsimp only
  rw [bind_of_eq_some hinterval, bind_of_eq_some hpolicy, bind_of_eq_some hjitter,
    bind_of_eq_some hqueue, bind_of_eq_some hfilter, bind_of_eq_some htemplates,
    bind_of_eq_some hblueprints]
  rfl

end Reading

namespace Settings

variable {library : Library} {s : Settings}

/-- Settings whose numbers fit are written as their lines. -/
theorem toText_of_short (hlibrary : library.Documented)
    (h : ∀ b ∈ s.blueprints, ∀ x ∈ b.scaling.toList, x.isFinite = true)
    (hnumbers : ∀ n ∈ s.longNumbers, n.toNat < 9223372036854775808) :
    s.toText library = .ok (String.ofList (writeLines s.outLines)) := by
  rw [toText, hlibrary.written s.layout?_pairs (fits_outLines h hnumbers)]
  rfl

/-- Settings with a number that does not fit are refused. -/
theorem toText_of_long (hlibrary : library.Documented) {n : UInt64} (hmem : n ∈ s.longNumbers)
    (hlong : 9223372036854775808 ≤ n.toNat) :
    ∃ reason, s.toText library = .error (.unwritable reason) := by
  obtain ⟨reason, hreason⟩ := hlibrary.refused s.layout?_pairs (isLong_outLines hmem hlong)
  refine ⟨reason, ?_⟩
  rw [toText, hreason]
  rfl

/-- The lines of settings, written out, are read as the settings. -/
theorem ofText?_writeLines (hlibrary : library.Documented)
    (h : ∀ b ∈ s.blueprints, ∀ x ∈ b.scaling.toList, x.isFinite = true)
    (hnumbers : ∀ n ∈ s.longNumbers, n.toNat < 9223372036854775808) :
    ofText? library (String.ofList (writeLines s.outLines)) = some s := by
  have hrecord : recordOfLines (s.outLines.map OutLine.line) = some (.record s.record) := by
    rw [s.map_line_outLines]
    refine recordOfLines_sheets s.sheet_distinct.1 (fun sheet hmem => ?_) fun hne =>
      s.sheet_distinct.2 fun hnil => hne (by rw [hnil]; rfl)
    obtain ⟨b, -, rfl⟩ := List.mem_map.mp hmem
    exact b.sheet_distinct
  have hread : library.read (String.ofList (writeLines s.outLines)) = some (.record s.record) :=
    hlibrary.read <| by
      rw [String.toList_ofList, ofChars?_writeLines (fits_outLines h hnumbers), hrecord]
  rw [ofText?, hread, bind_of_eq_some rfl, ofDatum?_record h]

/-- **Settings survive being written and read**, by any library that keeps to the format.
Settings whose factors are finite can be written if and only if every number of 64 bits in
them is less than 2 ^ 63; and what is written is read back as the same settings, whatever
the texts hold, however many blueprints there are, and down to the sign of a zero. -/
theorem toText_spec (library : Library) (hlibrary : library.Documented) (s : Settings)
    (h : ∀ b ∈ s.blueprints, ∀ x ∈ b.scaling.toList, x.isFinite = true) :
    ((∃ text, s.toText library = .ok text) ↔
      ∀ n ∈ s.longNumbers, n.toNat ≤ 9223372036854775807) ∧
      ∀ text, s.toText library = .ok text → ofText? library text = some s := by
  have hshort : ∀ text, s.toText library = .ok text →
      ∀ n ∈ s.longNumbers, n.toNat < 9223372036854775808 := fun text htext n hmem => by
    refine Nat.lt_of_not_le fun hlong => ?_
    obtain ⟨reason, hreason⟩ := toText_of_long hlibrary hmem hlong
    cases htext.symm.trans hreason
  refine ⟨⟨?_, fun hnumbers => ?_⟩, fun text htext => ?_⟩
  · rintro ⟨text, htext⟩ n hmem
    exact Nat.le_of_lt_succ (hshort text htext n hmem)
  · exact ⟨_, toText_of_short hlibrary h fun n hmem => Nat.lt_succ_of_le (hnumbers n hmem)⟩
  · have hnumbers := hshort text htext
    have hwritten := toText_of_short hlibrary h hnumbers
    obtain rfl := Except.ok.inj (hwritten.symm.trans htext)
    exact ofText?_writeLines hlibrary h hnumbers

/-- Settings that put the document to the test: texts with marks of both kinds, backslashes,
line ends and control characters, one blueprint with lists of none and one with lists of
several, the largest number that fits, and factors down to the smallest and to minus zero. -/
def trying : Settings :=
  { usual with
    sweepIntervalMs := 9223372036854775807
    sweepPolicy := .fixed
    logFilter := "it's \"quoted\"\n\t\\ and '''hidden''' \x07"
    templates := ⟨"maps\\'of'\\old", "\"\"\"\n"⟩
    blueprints :=
      [{ Blueprint.plain with name := "'" },
       { Blueprint.plain with
         name := "\r\n"
         warnAt := [300, 60, 10]
         bosses := Std.ExtTreeSet.ofList ["Tamer", "", "Lady \"X\""]
         scaling := ⟨⟨1⟩, ⟨0x80000000⟩, ⟨0x3DCCCCCD⟩, ⟨0x7F7FFFFF⟩, ⟨0x4B800001⟩⟩
         seed := 1 }] }

theorem trying_survives :
    ∃ text, trying.toText .standard = .ok text ∧ ofText? .standard text = some trying := by
  have hfinite : ∀ b ∈ trying.blueprints, ∀ x ∈ b.scaling.toList, x.isFinite = true := by decide
  have hnumbers : trying.longNumbers.all (·.toNat ≤ 9223372036854775807) = true := by decide
  obtain ⟨hwritten, hread⟩ := toText_spec .standard Library.standard_documented trying hfinite
  obtain ⟨text, htext⟩ := hwritten.mpr fun n hmem =>
    of_decide_eq_true (List.all_eq_true.mp hnumbers n hmem)
  exact ⟨text, htext, hread text htext⟩

end Settings

end InstancedZones
