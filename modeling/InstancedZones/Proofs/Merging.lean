import Mathlib.Data.List.Pairwise
import InstancedZones.Proofs.Collections
import InstancedZones.Proofs.MemoryWorld
import InstancedZones.Proofs.Readiness

/-!
# Which files are merged

The templates are remembered by the text of their file names, and files are told
apart by the paths these lead to. So what has been merged after some requests is
known exactly, `Realm.merged_createAll`: for each file name that was asked for
and has a file that can be merged, that file, once, in the order of the first
requests. It makes no difference whether the file is registered or lies on disk.
And no file is merged twice just in case no two different names of those asked
for lead to one such file, `Realm.merged_pairwise_iff`: a name with and without
its extension is one name, but a name with a step more that leads nowhere is
another.
-/

namespace InstancedZones

theorem Path.same_comm (p q : String) : Path.same p q = Path.same q p :=
  decide_eq_decide.mpr eq_comm

namespace MemoryWorld

variable {w : MemoryWorld} {path : String}

/-- A file can be merged if it is there and is not among the broken ones. -/
def mergeable (w : MemoryWorld) (path : String) : Bool :=
  w.hasTemplate path && !among w.broken path

theorem run_mergeTemplate_of_broken (h : among w.broken path = true) :
    (TemplateSource.mergeTemplate path : Action MemoryWorld _).run w
      = ⟨.error (.unmergeable path "corrupt map header"), w, []⟩ := by
  simp [TemplateSource.mergeTemplate, h]

theorem run_mergeTemplate_of_sound (h : among w.broken path = false) :
    (TemplateSource.mergeTemplate path : Action MemoryWorld _).run w
      = ⟨.ok (), { w with merged := w.merged ++ [path] },
          [.debug "memory world merged map file" [("path", path)]]⟩ := by
  simp [TemplateSource.mergeTemplate, h]

end MemoryWorld

namespace TemplateCache

variable {c : TemplateCache} {name : String} {w : MemoryWorld}

/-- **What a request for a template leaves behind.** The file is merged if the
template is not resolved and the file can be merged; nothing else changes the
world. Afterwards the template is resolved, unless there is a file for it that is
broken. -/
theorem ensureLoaded_outcome (c : TemplateCache) (name : String) (w : MemoryWorld) :
    ((c.ensureLoaded name).run w).state
        = (if !c.isResolved name && w.mergeable (c.path name) then
            { w with merged := w.merged ++ [c.path name] } else w) ∧
      ((c.ensureLoaded name).run w).answer.2
        = if c.isResolved name ||
              (w.hasTemplate (c.path name) && !w.mergeable (c.path name)) then c
          else c.resolve name := by
  cases hres : c.isResolved name with
  | true => simp [ensureLoaded_of_isResolved hres]
  | false =>
    cases hfile : w.hasTemplate (c.path name) with
    | false => simp [ensureLoaded_of_absent (w := w) hres hfile, MemoryWorld.mergeable, hfile]
    | true =>
      cases hbroken : MemoryWorld.among w.broken (c.path name) with
      | true =>
        have hmerge := MemoryWorld.run_mergeTemplate_of_broken hbroken
        obtain ⟨hanswer, hstate⟩ := ensureLoaded_of_unmergeable (w := w) hres hfile rfl
          (congrArg Step.answer hmerge)
        rw [hanswer, hstate, MemoryWorld.run_templateExists, hmerge]
        simp [MemoryWorld.mergeable, hfile, hbroken]
      | false =>
        have hmerge := MemoryWorld.run_mergeTemplate_of_sound hbroken
        obtain ⟨hanswer, hstate⟩ := ensureLoaded_of_mergeable (w := w) hres hfile rfl
          (congrArg Step.answer hmerge)
        rw [hanswer, hstate, MemoryWorld.run_templateExists, hmerge]
        simp [MemoryWorld.mergeable, hfile, hbroken]

/-! ## What is still to be merged -/

/-- The file names of the templates asked for, those without a name left out. -/
def files (c : TemplateCache) (names : List String) : List String :=
  (names.filter fun name => !name.isEmpty).map c.fileName

/-- **The files that requests will merge**: of the file names asked for, those
that are not known yet and can be merged, each once. -/
def due (c : TemplateCache) (w : MemoryWorld) (names : List String) : List String :=
  ((c.files names).filter fun file =>
    w.mergeable (Path.join c.mapsDir file) && !c.resolved.contains file).eraseDups

theorem files_cons (c : TemplateCache) (name : String) (names : List String) :
    c.files (name :: names)
      = if name.isEmpty then c.files names else c.fileName name :: c.files names := by
  unfold files
  by_cases h : name.isEmpty = true <;> simp [h]

/-- Nothing is due for a template that is resolved, or whose file cannot be
merged. -/
theorem due_cons_of_not (names : List String)
    (h : (!c.isResolved name && w.mergeable (c.path name)) = false) :
    c.due w (name :: names) = c.due w names := by
  unfold due
  rw [files_cons]
  split
  · rfl
  · next hempty =>
    rw [List.filter_cons_of_neg]
    rw [isResolved, path] at h
    revert h
    cases c.resolved.contains (c.fileName name) <;> simp [hempty]

/-- Dealing with a file that cannot be merged takes nothing off what is due. -/
theorem due_resolve_of_not (names : List String) (h : w.mergeable (c.path name) = false) :
    (c.resolve name).due w names = c.due w names := by
  have hfiles : (c.resolve name).files names = c.files names := rfl
  unfold due
  rw [hfiles]
  congr 1
  refine List.filter_congr fun file _ => ?_
  by_cases hfile : c.fileName name = file
  · subst hfile
    rw [path] at h
    simp [resolve, h]
  · rw [resolve, Table.contains_insert, decide_eq_false hfile, Bool.false_or]

/-- **What is due is merged in turn**: dealing with a file that can be merged
takes it off the front, however often it is asked for later. -/
theorem due_cons (names : List String) (hres : c.isResolved name = false)
    (h : w.mergeable (c.path name) = true) :
    c.due w (name :: names) = c.fileName name :: (c.resolve name).due w names := by
  obtain ⟨hempty, hknown⟩ := isResolved_eq_false_iff.mp hres
  have hfiles : (c.resolve name).files names = c.files names := rfl
  rw [path] at h
  unfold due
  rw [files_cons, if_neg (by simp [hempty]), List.filter_cons_of_pos (by simp [h, hknown]),
    List.eraseDups_cons, hfiles, List.filter_filter]
  congr 2
  refine List.filter_congr fun file _ => ?_
  rw [resolve, Table.contains_insert]
  by_cases hfile : c.fileName name = file
  · simp [hfile]
  · simp [hfile, Ne.symm hfile]

/-- **A request leaves the sum of the merged and the due as it was.** -/
theorem merged_append_due (names : List String) :
    ((c.ensureLoaded name).run w).state.merged ++
        (((c.ensureLoaded name).run w).answer.2.due ((c.ensureLoaded name).run w).state names).map
          (Path.join c.mapsDir)
      = w.merged ++ (c.due w (name :: names)).map (Path.join c.mapsDir) := by
  obtain ⟨hstate, hcache⟩ := ensureLoaded_outcome c name w
  rw [hstate, hcache]
  cases hres : c.isResolved name with
  | true => simp [due_cons_of_not, hres]
  | false =>
    cases hmerge : w.mergeable (c.path name) with
    | true =>
      -- the file merged now is the one that was first among those due
      have hdue : (c.resolve name).due { w with merged := w.merged ++ [c.path name] } names
          = (c.resolve name).due w names := rfl
      rw [due_cons names hres hmerge, List.map_cons, ← path]
      simp [hdue]
    | false =>
      rw [due_cons_of_not names (by simp [hmerge])]
      cases w.hasTemplate (c.path name) <;> simp [due_resolve_of_not names hmerge]

/-- Nothing moves the directory of the template files. -/
theorem mapsDir_ensureLoaded :
    ((c.ensureLoaded name).run w).answer.2.mapsDir = c.mapsDir := by
  rw [(ensureLoaded_outcome c name w).2]
  split <;> rfl

/-- A new cache takes every file that can be merged for due. -/
theorem due_ofSettings (s : TemplateSettings) (w : MemoryWorld) (names : List String) :
    (ofSettings s).due w names
      = (((ofSettings s).files names).filter fun file =>
          w.mergeable (Path.join (ofSettings s).mapsDir file)).eraseDups := by
  simp [due, ofSettings]

theorem mem_due_ofSettings (s : TemplateSettings) (w : MemoryWorld) (names : List String)
    (file : String) :
    file ∈ (ofSettings s).due w names
      ↔ (∃ a ∈ names, a.isEmpty = false ∧ (ofSettings s).fileName a = file) ∧
          w.mergeable (Path.join (ofSettings s).mapsDir file) = true := by
  rw [due_ofSettings, List.mem_eraseDups, List.mem_filter, files]
  simp [and_assoc]

/-- **Two names clash** if they have different file names that lead to one file,
and that file can be merged under both. (A file that is registered can be found
under all its paths; on disk a slash behind the name may make a difference.) -/
def Clash (c : TemplateCache) (w : MemoryWorld) (a b : String) : Prop :=
  c.fileName a ≠ c.fileName b ∧ w.mergeable (c.path a) = true ∧ w.mergeable (c.path b) = true ∧
    Path.same (c.path a) (c.path b) = true

instance (a b : String) : Decidable (c.Clash w a b) :=
  inferInstanceAs (Decidable (_ ∧ _ ∧ _ ∧ _))

/-- **What is due for a new cache is free of repeats just in case no names
clash.** -/
theorem pairwise_due_iff (s : TemplateSettings) (w : MemoryWorld) (names : List String) :
    (((ofSettings s).due w names).map (Path.join (ofSettings s).mapsDir)).Pairwise
        (fun p q => Path.same p q = false)
      ↔ ∀ a ∈ names, ∀ b ∈ names, a.isEmpty = false → b.isEmpty = false →
          ¬ (ofSettings s).Clash w a b := by
  have hmem := mem_due_ofSettings s w names
  set c := ofSettings s
  rw [List.pairwise_map]
  constructor
  · rintro hpair a ha b hb hane hbne ⟨hfiles, hmerge, hmerge', hsame⟩
    have hsymm : Std.Symm fun file file' : String =>
        Path.same (Path.join c.mapsDir file) (Path.join c.mapsDir file') = false :=
      ⟨fun _ _ h => by rwa [Path.same_comm]⟩
    have hne := hpair.forall ((hmem _).mpr ⟨⟨a, ha, hane, rfl⟩, hmerge⟩)
      ((hmem _).mpr ⟨⟨b, hb, hbne, rfl⟩, hmerge'⟩) hfiles
    rw [path, path, hne] at hsame
    cases hsame
  · intro hclear
    refine (nodup_eraseDups _).pairwise_of_forall_ne fun file hfile file' hfile' hne => ?_
    obtain ⟨⟨a, ha, hane, rfl⟩, hmerge⟩ := (hmem file).mp hfile
    obtain ⟨⟨b, hb, hbne, rfl⟩, hmerge'⟩ := (hmem file').mp hfile'
    -- the file names are without repeats, so different places hold different names
    exact Bool.eq_false_iff.mpr fun hsame =>
      hclear a ha b hb hane hbne ⟨hne, hmerge, hmerge', hsame⟩

end TemplateCache

namespace Realm

/-! ## A row of requests -/

/-- Opens instances, one after the other, whatever becomes of each. -/
def createAll {W : Type} [TemplateSource W] :
    List (Blueprint × Timestamp) → Action (Realm W) Unit
  | [] => return ()
  | (b, now) :: rest => do
    let _ ← create b now
    createAll rest

/-- Of the templates and the world, opening an instance changes what making its
template ready changes. -/
theorem run_create_state {W : Type} [TemplateSource W] (b : Blueprint) (now : Timestamp)
    (realm : Realm W) :
    ((create b now).run realm).state.registry.templates
        = ((realm.registry.templates.ensureLoaded b.mapTemplate).run realm.world).answer.2 ∧
      ((create b now).run realm).state.world
        = ((realm.registry.templates.ensureLoaded b.mapTemplate).run realm.world).state := by
  rw [create, Action.run_bind, run_readyTemplate]
  cases ((realm.registry.templates.ensureLoaded b.mapTemplate).run realm.world).answer.1 with
  | error refusal => exact ⟨rfl, rfl⟩
  | ok status => exact ⟨rfl, rfl⟩

/-- **What has been merged after a row of requests**: what was merged before, and
then each file that was due, once, in the order of the first requests. -/
theorem merged_createAll (calls : List (Blueprint × Timestamp)) (realm : Realm MemoryWorld) :
    ((createAll calls).run realm).state.world.merged
      = realm.world.merged ++
          (realm.registry.templates.due realm.world (calls.map (·.1.mapTemplate))).map
            (Path.join realm.registry.templates.mapsDir) := by
  induction calls generalizing realm with
  | nil => simp [createAll, TemplateCache.due, TemplateCache.files]
  | cons call rest ih =>
    obtain ⟨b, now⟩ := call
    obtain ⟨htemplates, hworld⟩ := run_create_state b now realm
    rw [createAll, Action.run_bind, ih, htemplates, hworld, TemplateCache.mapsDir_ensureLoaded]
    exact TemplateCache.merged_append_due _

/-- **No file is merged twice just in case no two of the names asked for
clash**, whatever templates are registered and whatever lies on disk. -/
theorem merged_pairwise_iff {s : TemplateSettings} {w : MemoryWorld} (fresh : w.merged = [])
    (calls : List (Blueprint × Timestamp)) :
    ((createAll calls).run ⟨.ofSettings s, w⟩).state.world.merged.Pairwise
        (fun p q => Path.same p q = false)
      ↔ ∀ a ∈ calls.map (·.1.mapTemplate), ∀ b ∈ calls.map (·.1.mapTemplate),
          a.isEmpty = false → b.isEmpty = false →
          ¬ (TemplateCache.ofSettings s).Clash w a b := by
  rw [merged_createAll, fresh, List.nil_append]
  exact TemplateCache.pairwise_due_iff s w _

/-- The requests for instances with the templates given, all at one time. -/
def requests (names : List String) : List (Blueprint × Timestamp) :=
  names.map fun name => ({ Blueprint.plain with mapTemplate := name }, .epoch)

/-- A world with the file of a crypt on disk, and that of a hall registered. -/
def cryptOnDisk : MemoryWorld :=
  { MemoryWorld.empty.addTemplate "maps/hall.otbm" with isFile := (· == "maps/crypt.otbm") }

/-- The name of the crypt with and without its extension is one name, so its file is merged
once; and so is that of the hall. -/
theorem merged_once_crypt :
    cryptOnDisk.merged = [] ∧
      ((createAll (requests ["crypt", "hall", "crypt.otbm", "crypt"])).run
          ⟨.ofSettings ⟨"maps", "otbm"⟩, cryptOnDisk⟩).state.world.merged
        = ["maps/crypt.otbm", "maps/hall.otbm"] ∧
      ((createAll (requests ["crypt", "hall", "crypt.otbm", "crypt"])).run
          ⟨.ofSettings ⟨"maps", "otbm"⟩, cryptOnDisk⟩).state.world.merged.Pairwise
        (fun p q => Path.same p q = false) := by
  refine ⟨rfl, ?_, (merged_pairwise_iff rfl _).mpr (by decide +kernel)⟩
  rw [merged_createAll]
  decide +kernel

/-- A step that leads nowhere makes it another name, and the file is merged again. -/
theorem merged_twice_crypt :
    ¬ ((createAll (requests ["crypt", "./crypt"])).run
          ⟨.ofSettings ⟨"maps", "otbm"⟩,
            MemoryWorld.empty.addTemplate "maps/crypt.otbm"⟩).state.world.merged.Pairwise
        (fun p q => Path.same p q = false) := by
  decide +kernel

end Realm

end InstancedZones
