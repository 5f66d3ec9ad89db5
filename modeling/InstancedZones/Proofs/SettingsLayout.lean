import InstancedZones.Proofs.WrittenLines
import InstancedZones.Settings.Writing

/-!
# How settings are laid out

The data of settings are laid out with all values named, first those of the whole server,
then the place of the templates, then one table for each blueprint with its factors and
positions below it, `Settings.layout?_pairs`. Of these lines each can be read back,
`Settings.fits_outLines`, unless there is a number among them that does not fit 64 bits
with a sign, `Settings.isLong_outLines`.

The members of a blueprint are declared with values and tables mixed. `Laid` follows them
one by one, and says which lines come of the values and which of the tables.
-/

namespace InstancedZones

open Toml

/-! ## Members of a record -/

namespace Toml

theorem Atom.ofDatum?_datum (a : Atom) : Atom.ofDatum? a.datum = some a := by
  cases a <;> rfl

theorem Literal.ofDatum?_datum (l : Literal) : Literal.ofDatum? l.datum = some l := by
  cases l with
  | atom a => cases a <;> rfl
  | list items =>
    have hitems : (items.map Atom.datum).mapM Atom.ofDatum? = some items := by
      induction items with
      | nil => rfl
      | cons a items ih =>
        rw [List.map_cons, List.mapM_cons, Atom.ofDatum?_datum, ih]
        rfl
    rw [datum, ofDatum?, hitems]
    rfl

/-- A value stands above the tables. -/
theorem isBelow_datum (l : Literal) : isBelow l.datum = false := by
  cases l with
  | atom a => cases a <;> rfl
  | list items =>
    cases items with
    | nil => rfl
    | cons a items => cases a <;> rfl

variable {path : List String} {entries : List (String × Datum)} {d : Datum}
  {values below ls : List OutLine}

/-- **How members are laid out**: the lines of the values among them, and the lines of the
tables, whose names begin with `path`. -/
def Laid (path : List String) (entries : List (String × Datum)) (values below : List OutLine) :
    Prop :=
  layoutValues? entries = some values ∧ layoutBelow? path entries = some below

theorem Laid.nil (path : List String) : Laid path [] [] [] := ⟨rfl, rfl⟩

/-- A value is one line. -/
theorem Laid.value (name : String) (l : Literal) (h : Laid path entries values below) :
    Laid path ((name, l.datum) :: entries) (.pair name l :: values) below := by
  constructor
  · rw [layoutValues?, isBelow_datum, if_neg Bool.false_ne_true, Literal.ofDatum?_datum, h.1]
    rfl
  · rw [layoutBelow?, isBelow_datum, if_neg Bool.false_ne_true, h.2]
    rfl

/-- A table has lines of its own. -/
theorem Laid.table (name : String) (hbelow : isBelow d = true)
    (htable : layoutTable? (path ++ [name]) false d = some ls)
    (h : Laid path entries values below) :
    Laid path ((name, d) :: entries) values (ls ++ below) := by
  constructor
  · rw [layoutValues?, if_pos hbelow, h.1]
  · rw [layoutBelow?, if_pos hbelow, htable, h.2]
    rfl

/-- A record has a header, unless it is implied, then its values, and then its tables. -/
theorem Laid.layoutTable?_record (h : Laid path entries values below) (isElement : Bool) :
    layoutTable? path isElement (.record entries)
      = some (heading path isElement (values.isEmpty && !entries.isEmpty) ++ values ++ below) := by
  rw [layoutTable?, h.1, h.2]
  rfl

end Toml

/-! ## The lines of settings -/

/-- A number of the settings as it is written. -/
private def numberLine (name : String) (value : Nat) : OutLine :=
  .pair name (.atom (.whole value))

/-- A text of the settings as it is written. -/
private def textLine (name value : String) : OutLine := .pair name (.atom (.text value))

/-- A factor as it is written. -/
private def factorLine (name : String) (value : Binary32) : OutLine :=
  .pair name (.atom (.real value.toBinary64))

/-- The lines of a position. -/
def Position.outLines (p : Position) : List OutLine :=
  [numberLine "x" p.x.toNat, numberLine "y" p.y.toNat, numberLine "z" p.z.toNat]

/-- The lines of scaling factors. -/
def Scaling.outLines (s : Scaling) : List OutLine :=
  [factorLine "experience" s.experience, factorLine "loot" s.loot,
   factorLine "hit_points" s.hitPoints, factorLine "damage" s.damage, factorLine "armor" s.armor]

/-- The lines of a blueprint. -/
def Blueprint.outLines (b : Blueprint) : List OutLine :=
  [.element ["instance"],
   textLine "name" b.name,
   textLine "map_template" b.mapTemplate,
   numberLine "duration_secs" b.durationSecs.toNat,
   .pair "warn_at" (.list (b.warnAt.map fun secs => .whole secs.toNat)),
   .pair "bosses" (.list (b.bosses.toList.map .text)),
   .pair "party_only" (.atom (.truth b.partyOnly)),
   numberLine "min_level" b.minLevel.toNat,
   numberLine "cooldown_secs" b.cooldownSecs.toNat,
   numberLine "seed" b.seed.toNat] ++
  .header ["instance", "scaling"] :: b.scaling.outLines ++
  .header ["instance", "entry"] :: b.entry.outLines ++
  .header ["instance", "exit"] :: b.exit.outLines

/-- The lines of all settings. -/
def Settings.outLines (s : Settings) : List OutLine :=
  [numberLine "sweep_interval_ms" s.sweepIntervalMs.toNat,
   textLine "sweep_policy" s.sweepPolicy.keyword,
   numberLine "sweep_jitter_ms" s.sweepJitterMs.toNat,
   numberLine "command_queue" s.commandQueue.toNat,
   textLine "log_filter" s.logFilter] ++
  (if s.blueprints.isEmpty then [.pair "instance" (.list [])] else []) ++
  [.header ["manager"],
   textLine "maps_dir" s.templates.mapsDir,
   textLine "map_extension" s.templates.mapExtension] ++
  s.blueprints.flatMap Blueprint.outLines

theorem Position.laid_pairs (p : Position) (path : List String) :
    Laid path p.pairs p.outLines [] :=
  .value "x" (.atom (.whole _)) <| .value "y" (.atom (.whole _)) <|
    .value "z" (.atom (.whole _)) <| .nil path

theorem Scaling.laid_pairs (s : Scaling) (path : List String) :
    Laid path s.pairs s.outLines [] :=
  .value "experience" (.atom (.real _)) <| .value "loot" (.atom (.real _)) <|
    .value "hit_points" (.atom (.real _)) <| .value "damage" (.atom (.real _)) <|
    .value "armor" (.atom (.real _)) <| .nil path

/-- The warnings of a blueprint, as a value. -/
theorem Blueprint.datum_warnAt (b : Blueprint) :
    (Literal.list (b.warnAt.map fun secs => .whole secs.toNat)).datum
      = .list (b.warnAt.map fun secs => .whole secs.toNat) :=
  congrArg Datum.list (List.map_map ..)

/-- The bosses of a blueprint, as a value. -/
theorem Blueprint.datum_bosses (b : Blueprint) :
    (Literal.list (b.bosses.toList.map .text)).datum = .list (b.bosses.toList.map .text) :=
  congrArg Datum.list (List.map_map ..)

/-- Between the values of a blueprint stand its tables, which go below them. -/
theorem Blueprint.layoutTable?_pairs (b : Blueprint) :
    layoutTable? ["instance"] true (.record b.pairs) = some b.outLines := by
  have hscaling := (b.scaling.laid_pairs ["instance", "scaling"]).layoutTable?_record false
  have hentry := (b.entry.laid_pairs ["instance", "entry"]).layoutTable?_record false
  have hexit := (b.exit.laid_pairs ["instance", "exit"]).layoutTable?_record false
  rw [pairs, ← b.datum_warnAt, ← b.datum_bosses]
  have hlaid : Laid ["instance"] _ _ _ :=
    .value "name" (.atom (.text b.name)) <|
    .value "map_template" (.atom (.text b.mapTemplate)) <|
    .value "duration_secs" (.atom (.whole b.durationSecs.toNat)) <|
    .value "warn_at" (.list (b.warnAt.map fun secs => .whole secs.toNat)) <|
    .table "scaling" rfl hscaling <| .table "entry" rfl hentry <| .table "exit" rfl hexit <|
    .value "bosses" (.list (b.bosses.toList.map .text)) <|
    .value "party_only" (.atom (.truth b.partyOnly)) <|
    .value "min_level" (.atom (.whole b.minLevel.toNat)) <|
    .value "cooldown_secs" (.atom (.whole b.cooldownSecs.toNat)) <|
    .value "seed" (.atom (.whole b.seed.toNat)) <| .nil _
  exact hlaid.layoutTable?_record true

/-- The blueprints are laid out one after the other. -/
theorem layoutElements?_blueprints (bs : List Blueprint) :
    layoutElements? ["instance"] (bs.map fun b => .record b.pairs)
      = some (bs.flatMap Blueprint.outLines) := by
  induction bs with
  | nil => rfl
  | cons b bs ih =>
    rw [List.map_cons, layoutElements?, b.layoutTable?_pairs, ih]
    rfl

/-- **The lines of settings are the layout of their data.** Blueprints are tables of one
list, but where there are none the list is a value. -/
theorem Settings.layout?_pairs (s : Settings) : layout? (.record s.pairs) = some s.outLines := by
  have hmanager : layoutTable? ["manager"] false (.record s.templates.pairs)
      = some [.header ["manager"], textLine "maps_dir" s.templates.mapsDir,
          textLine "map_extension" s.templates.mapExtension] :=
    Laid.layoutTable?_record (.value "maps_dir" (.atom (.text _)) <|
      .value "map_extension" (.atom (.text _)) <| .nil _) false
  have hlist : Laid [] [("instance", .list (s.blueprints.map fun b => .record b.pairs))]
      (if s.blueprints.isEmpty then [.pair "instance" (.list [])] else [])
      (s.blueprints.flatMap Blueprint.outLines) := by
    cases s.blueprints with
    | nil => exact .value "instance" (.list []) <| .nil []
    | cons b bs =>
      have hbelow : isBelow (.list ((b :: bs).map fun b => .record b.pairs)) = true := by
        simp [isBelow, isRecord]
      have htables := layoutElements?_blueprints (b :: bs)
      rw [← List.append_nil ((b :: bs).flatMap _)]
      exact .table "instance" hbelow htables <| .nil []
  obtain ⟨hvalues, hbelow⟩ : Laid [] s.pairs _ _ :=
    .value "sweep_interval_ms" (.atom (.whole _)) <| .value "sweep_policy" (.atom (.text _)) <|
    .value "sweep_jitter_ms" (.atom (.whole _)) <| .value "command_queue" (.atom (.whole _)) <|
    .value "log_filter" (.atom (.text _)) <| .table "manager" rfl hmanager hlist
  rw [layout?, hvalues, hbelow, outLines, List.append_assoc, List.append_assoc]
  rfl

/-! ## What can be written -/

/-- The numbers of a blueprint that have 64 bits. -/
def Blueprint.longNumbers (b : Blueprint) : List UInt64 :=
  b.durationSecs :: b.warnAt ++ [b.cooldownSecs, b.seed]

/-- The numbers of the settings that have 64 bits. -/
def Settings.longNumbers (s : Settings) : List UInt64 :=
  [s.sweepIntervalMs, s.sweepJitterMs, s.commandQueue] ++ s.blueprints.flatMap Blueprint.longNumbers

/-- A factor that is finite can be written. -/
theorem Binary32.fits_toBinary64 {x : Binary32} (h : x.isFinite = true) :
    (Literal.atom (.real x.toBinary64)).Fits := by
  obtain ⟨pattern, hpattern, hwide, -⟩ := toBinary64_spec h
  exact ⟨x.isNegative, pattern, hpattern, hwide⟩

theorem Scaling.fits_outLines {s : Scaling} (h : ∀ x ∈ s.toList, x.isFinite = true) :
    ∀ l ∈ s.outLines, l.Fits := by
  simp only [toList, List.forall_mem_cons, List.not_mem_nil, false_implies, implies_true,
    and_true] at h
  simp only [outLines, List.forall_mem_cons, List.not_mem_nil, false_implies, implies_true,
    and_true]
  obtain ⟨hexperience, hloot, hhitPoints, hdamage, harmor⟩ := h
  exact ⟨⟨by decide, Binary32.fits_toBinary64 hexperience⟩,
    ⟨by decide, Binary32.fits_toBinary64 hloot⟩, ⟨by decide, Binary32.fits_toBinary64 hhitPoints⟩,
    ⟨by decide, Binary32.fits_toBinary64 hdamage⟩, ⟨by decide, Binary32.fits_toBinary64 harmor⟩⟩

/-- A position can always be written. -/
theorem Position.fits_outLines (p : Position) : ∀ l ∈ p.outLines, l.Fits := by
  simp only [outLines, List.forall_mem_cons, List.not_mem_nil, false_implies, implies_true,
    and_true]
  exact ⟨⟨by decide, p.x.toNat_lt.trans (by decide)⟩, ⟨by decide, p.y.toNat_lt.trans (by decide)⟩,
    ⟨by decide, p.z.toNat_lt.trans (by decide)⟩⟩

/-- **A blueprint can be written** if its factors are finite and its long numbers fit. -/
theorem Blueprint.fits_outLines {b : Blueprint} (h : ∀ x ∈ b.scaling.toList, x.isFinite = true)
    (hnumbers : ∀ n ∈ b.longNumbers, n.toNat < 9223372036854775808) :
    ∀ l ∈ b.outLines, l.Fits := by
  simp only [longNumbers, List.cons_append, List.forall_mem_cons, List.forall_mem_append,
    List.not_mem_nil, false_implies, implies_true, and_true] at hnumbers
  obtain ⟨hduration, hwarn, hcooldown, hseed⟩ := hnumbers
  have hwarns : (Literal.list (b.warnAt.map fun secs => .whole secs.toNat)).Fits := by
    rintro _ hmem
    obtain ⟨secs, hsecs, rfl⟩ := List.mem_map.mp hmem
    exact hwarn secs hsecs
  have hbosses : (Literal.list (b.bosses.toList.map .text)).Fits := by
    rintro _ hmem
    obtain ⟨name, -, rfl⟩ := List.mem_map.mp hmem
    trivial
  have hheader : ∀ name, isBareName name = true → FitsHeader ["instance", name] := fun name hname =>
    ⟨List.cons_ne_nil _ _, show 2 ≤ maxDepth by decide, by
      simp only [List.forall_mem_cons, List.not_mem_nil, false_implies, implies_true, and_true]
      exact ⟨by decide, hname⟩⟩
  have hlevel : b.minLevel.toNat < 9223372036854775808 := b.minLevel.toNat_lt.trans (by decide)
  simp only [outLines, List.cons_append, List.nil_append, List.forall_mem_cons,
    List.forall_mem_append]
  refine ⟨⟨by decide, by decide, by decide⟩, ⟨by decide, trivial⟩, ⟨by decide, trivial⟩,
    ⟨by decide, hduration⟩, ⟨by decide, hwarns⟩, ⟨by decide, hbosses⟩, ⟨by decide, trivial⟩,
    ⟨by decide, hlevel⟩, ⟨by decide, hcooldown⟩, ⟨by decide, hseed⟩,
    hheader "scaling" (by decide), ⟨Scaling.fits_outLines h, hheader "entry" (by decide),
      b.entry.fits_outLines⟩, hheader "exit" (by decide), b.exit.fits_outLines⟩

/-- So can settings. -/
theorem Settings.fits_outLines {s : Settings}
    (h : ∀ b ∈ s.blueprints, ∀ x ∈ b.scaling.toList, x.isFinite = true)
    (hnumbers : ∀ n ∈ s.longNumbers, n.toNat < 9223372036854775808) :
    ∀ l ∈ s.outLines, l.Fits := by
  simp only [longNumbers, List.cons_append, List.nil_append, List.forall_mem_cons,
    List.forall_mem_flatMap] at hnumbers
  obtain ⟨hinterval, hjitter, hqueue, hlong⟩ := hnumbers
  have hempty : ∀ l ∈ (if s.blueprints.isEmpty then [OutLine.pair "instance" (.list [])] else []),
      l.Fits := by
    split
    · rintro l hmem
      obtain rfl := List.mem_singleton.mp hmem
      exact ⟨by decide, fun _ hnone => nomatch hnone⟩
    · exact fun _ hnone => nomatch hnone
  have hmanager : FitsHeader ["manager"] :=
    ⟨List.cons_ne_nil _ _, show 1 ≤ maxDepth by decide, fun name hname => by
      obtain rfl := List.mem_singleton.mp hname
      decide⟩
  simp only [outLines, List.cons_append, List.nil_append, List.forall_mem_cons,
    List.forall_mem_append, List.forall_mem_flatMap]
  exact ⟨⟨by decide, hinterval⟩, ⟨by decide, trivial⟩, ⟨by decide, hjitter⟩, ⟨by decide, hqueue⟩,
    ⟨by decide, trivial⟩, ⟨hempty, hmanager, ⟨by decide, trivial⟩, ⟨by decide, trivial⟩,
      fun _ hnone => nomatch hnone⟩,
    fun b hmem => Blueprint.fits_outLines (h b hmem) (hlong b hmem)⟩

/-- **A number that does not fit** is on a line of its own, or in the list of one. -/
theorem Blueprint.isLong_outLines {b : Blueprint} {n : UInt64} (hmem : n ∈ b.longNumbers)
    (hlong : 9223372036854775808 ≤ n.toNat) : ∃ l ∈ b.outLines, l.isLong = true := by
  have hline : (Atom.whole n.toNat).isLong = true := decide_eq_true hlong
  simp only [longNumbers, List.cons_append, List.mem_cons, List.mem_append, List.not_mem_nil,
    or_false] at hmem
  obtain rfl | hwarn | rfl | rfl := hmem
  · exact ⟨numberLine "duration_secs" b.durationSecs.toNat, by simp [outLines], hline⟩
  · refine ⟨.pair "warn_at" (.list (b.warnAt.map fun secs => .whole secs.toNat)),
      by simp [outLines], ?_⟩
    exact List.any_eq_true.mpr ⟨.whole n.toNat, List.mem_map_of_mem hwarn, hline⟩
  · exact ⟨numberLine "cooldown_secs" b.cooldownSecs.toNat, by simp [outLines], hline⟩
  · exact ⟨numberLine "seed" b.seed.toNat, by simp [outLines], hline⟩

theorem Settings.isLong_outLines {s : Settings} {n : UInt64} (hmem : n ∈ s.longNumbers)
    (hlong : 9223372036854775808 ≤ n.toNat) : ∃ l ∈ s.outLines, l.isLong = true := by
  have hline : (Atom.whole n.toNat).isLong = true := decide_eq_true hlong
  simp only [longNumbers, List.cons_append, List.nil_append, List.mem_cons,
    List.mem_flatMap] at hmem
  obtain rfl | rfl | rfl | ⟨b, hb, hmem⟩ := hmem
  · exact ⟨numberLine "sweep_interval_ms" s.sweepIntervalMs.toNat, by simp [outLines], hline⟩
  · exact ⟨numberLine "sweep_jitter_ms" s.sweepJitterMs.toNat, by simp [outLines], hline⟩
  · exact ⟨numberLine "command_queue" s.commandQueue.toNat, by simp [outLines], hline⟩
  · obtain ⟨l, hl, hline⟩ := Blueprint.isLong_outLines hmem hlong
    exact ⟨l, List.mem_append_right _ (List.mem_flatMap.mpr ⟨b, hb, hl⟩), hline⟩

end InstancedZones
