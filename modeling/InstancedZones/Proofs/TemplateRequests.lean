import InstancedZones.Proofs.MemoryWorld
import InstancedZones.Proofs.Readiness

/-!
# What is remembered of the requests for templates

A cache of templates is asked for one template after the other, under any names, and finds
the source of templates in another state each time, or finds another source. What it
remembers of all this is told by the requests that were answered well: the file names of
those that had a name, and nothing else. `TemplateCache.Outcome` says in one clause for each
way a request can go what it is answered, what the source is asked meanwhile, and what is
remembered afterwards. By induction over the requests, `TemplateCache.History`, a template is
resolved just in case it has been asked for with success under some name with the same file
name, and of the requests for one file name at most one has merged a file,
`TemplateCache.History.remembered`.

To tell what a source is asked, the source is watched, `Watched`: whatever is asked is written
down with what came of it, and passed on. Watching makes no difference to what a request
comes to.
-/

namespace InstancedZones

/-- What a source of templates was asked, with what came of it. -/
inductive Consultation
  /-- Whether there is a file at the path. -/
  | probed (path : String) (found : Bool)
  /-- To merge the file at the path, and it was merged. -/
  | merged (path : String)
  /-- To merge the file at the path, and it could not be merged. -/
  | failed (path : String) (cause : MergeError)
deriving DecidableEq, Repr

namespace Consultation

/-- What came of asking for a merge. -/
def ofMerge (path : String) : Except MergeError Unit → Consultation
  | .ok () => merged path
  | .error cause => failed path cause

/-- Whether a file was merged. -/
def isMerge : Consultation → Bool
  | merged _ => true
  | _ => false

end Consultation

/-- A source of templates that is watched. -/
structure Watched (W : Type) where
  /-- The source. -/
  source : W
  /-- What it has been asked, the first first. -/
  asked : List Consultation

namespace Watched

variable {W α : Type}

/-- Passes a question on to the source, and writes it down. -/
def ask (x : Action W α) (note : α → Consultation) : Action (Watched W) α := do
  let answer ← Action.within source (fun source w => { w with source }) x
  modify fun w => { w with asked := w.asked ++ [note answer] }
  return answer

@[simp] theorem run_ask (x : Action W α) (note : α → Consultation) (w : Watched W) :
    (ask x note).run w
      = ⟨(x.run w.source).answer,
          ⟨(x.run w.source).state, w.asked ++ [note (x.run w.source).answer]⟩,
          (x.run w.source).events⟩ := by
  simp [ask]

variable [TemplateSource W]

instance : TemplateSource (Watched W) where
  templateExists path := ask (TemplateSource.templateExists path) (.probed path)
  mergeTemplate path := ask (TemplateSource.mergeTemplate path) (.ofMerge path)

@[simp] theorem run_templateExists (path : String) (source : W) (asked : List Consultation) :
    (TemplateSource.templateExists path).run (⟨source, asked⟩ : Watched W)
      = ⟨((TemplateSource.templateExists path).run source).answer,
          ⟨((TemplateSource.templateExists path).run source).state,
            asked ++ [.probed path ((TemplateSource.templateExists path).run source).answer]⟩,
          ((TemplateSource.templateExists path).run source).events⟩ :=
  run_ask ..

@[simp] theorem run_mergeTemplate (path : String) (source : W) (asked : List Consultation) :
    (TemplateSource.mergeTemplate path).run (⟨source, asked⟩ : Watched W)
      = ⟨((TemplateSource.mergeTemplate path).run source).answer,
          ⟨((TemplateSource.mergeTemplate path).run source).state,
            asked ++ [.ofMerge path ((TemplateSource.mergeTemplate path).run source).answer]⟩,
          ((TemplateSource.mergeTemplate path).run source).events⟩ :=
  run_ask ..

/-- **Watching makes no difference**: a request comes to the same for the cache, and does the
same to the source. -/
theorem run_ensureLoaded (c : TemplateCache) (name : String) (source : W)
    (asked : List Consultation) :
    ((c.ensureLoaded name).run (⟨source, asked⟩ : Watched W)).answer
        = ((c.ensureLoaded name).run source).answer ∧
      ((c.ensureLoaded name).run (⟨source, asked⟩ : Watched W)).state.source
        = ((c.ensureLoaded name).run source).state := by
  cases hres : c.isResolved name with
  | true =>
    rw [TemplateCache.ensureLoaded_of_isResolved hres, TemplateCache.ensureLoaded_of_isResolved hres]
    exact ⟨rfl, rfl⟩
  | false =>
    obtain ⟨hname, hnew⟩ := TemplateCache.isResolved_eq_false_iff.mp hres
    cases hfile : ((TemplateSource.templateExists (c.path name)).run source).answer with
    | false => simp [TemplateCache.ensureLoaded, hname, hnew, hfile]
    | true =>
      cases hmerge : ((TemplateSource.mergeTemplate (c.path name)).run
          ((TemplateSource.templateExists (c.path name)).run source).state).answer with
      | error cause => simp [TemplateCache.ensureLoaded, hname, hnew, hfile, hmerge]
      | ok => simp [TemplateCache.ensureLoaded, hname, hnew, hfile, hmerge]

end Watched

/-- One request for a template. -/
structure TemplateRequest where
  /-- The name asked for. -/
  name : String
  /-- What was answered. -/
  answer : Except Refusal TemplateStatus
  /-- What the source was asked meanwhile. -/
  asked : List Consultation

namespace TemplateRequest

/-- Whether a template has been made ready: the request had a name and was answered well. -/
def Readied (r : TemplateRequest) : Prop := r.name ≠ "" ∧ ∃ status, r.answer = .ok status

instance (r : TemplateRequest) : Decidable r.Readied :=
  decidable_of_iff (r.name ≠ "" ∧ r.answer.isOk = true) <| and_congr_right' <| by
    cases r.answer <;> simp [Except.isOk, Except.toBool]

end TemplateRequest

namespace TemplateCache

section Requests

variable {W : Type} [TemplateSource W] {c : TemplateCache} {name : String} {w : W}

/-- The request for a template, made of a source that is watched. -/
def request (c : TemplateCache) (name : String) (w : W) : TemplateRequest :=
  ⟨name, ((c.ensureLoaded name).run (⟨w, []⟩ : Watched W)).answer.1,
    ((c.ensureLoaded name).run (⟨w, []⟩ : Watched W)).state.asked⟩

/-- The cache after a request. -/
def after (c : TemplateCache) (name : String) (w : W) : TemplateCache :=
  ((c.ensureLoaded name).run w).answer.2

/-- **What a request comes to**: the request itself, with its answer and what the source was
asked, and the cache afterwards. -/
inductive Outcome (c : TemplateCache) (name : String) (w : W) :
    TemplateRequest → TemplateCache → Prop
  /-- Nothing is asked for. -/
  | unnamed (hname : name = "") : Outcome c name w ⟨name, .ok .noTemplate, []⟩ c
  /-- The template has been dealt with: the source is not asked. -/
  | known (hname : name ≠ "") (hknown : c.isResolved name = true) :
      Outcome c name w ⟨name, .ok .alreadyLoaded, []⟩ c
  /-- There is no file: nothing is merged. -/
  | absent (hname : name ≠ "") (hnew : c.isResolved name = false)
      (hfile : ((TemplateSource.templateExists (c.path name)).run w).answer = false) :
      Outcome c name w ⟨name, .ok .assumedBaseWorld, [.probed (c.path name) false]⟩
        (c.resolve name)
  /-- There is a file, and it is merged. -/
  | merged (hname : name ≠ "") (hnew : c.isResolved name = false)
      (hfile : ((TemplateSource.templateExists (c.path name)).run w).answer = true)
      (hmerge : ((TemplateSource.mergeTemplate (c.path name)).run
        ((TemplateSource.templateExists (c.path name)).run w).state).answer = .ok ()) :
      Outcome c name w
        ⟨name, .ok .merged, [.probed (c.path name) true, .merged (c.path name)]⟩
        (c.resolve name)
  /-- There is a file, and it cannot be merged: nothing is remembered. -/
  | failed {cause : MergeError} (hname : name ≠ "") (hnew : c.isResolved name = false)
      (hfile : ((TemplateSource.templateExists (c.path name)).run w).answer = true)
      (hmerge : ((TemplateSource.mergeTemplate (c.path name)).run
        ((TemplateSource.templateExists (c.path name)).run w).state).answer = .error cause) :
      Outcome c name w
        ⟨name, .error (.mapLoad name cause),
          [.probed (c.path name) true, .failed (c.path name) cause]⟩ c

/-- **Every request comes to one of these.** -/
theorem outcome_request (c : TemplateCache) (name : String) (w : W) :
    Outcome c name w (c.request name w) (c.after name w) := by
  unfold request after
  cases hres : c.isResolved name with
  | true =>
    rw [ensureLoaded_of_isResolved hres, ensureLoaded_of_isResolved hres]
    by_cases hname : name = ""
    · rw [if_pos (String.isEmpty_iff.mpr hname)]
      exact .unnamed hname
    · rw [if_neg (mt String.isEmpty_iff.mp hname)]
      exact .known hname hres
  | false =>
    have hname : name ≠ "" := by
      rintro rfl
      cases hres
    obtain ⟨hempty, hunknown⟩ := isResolved_eq_false_iff.mp hres
    cases hfile : ((TemplateSource.templateExists (c.path name)).run w).answer with
    | false =>
      simpa [ensureLoaded, hempty, hunknown, hfile] using Outcome.absent hname hres hfile
    | true =>
      cases hmerge : ((TemplateSource.mergeTemplate (c.path name)).run
          ((TemplateSource.templateExists (c.path name)).run w).state).answer with
      | error cause =>
        simpa [ensureLoaded, hempty, hunknown, hfile, hmerge, Consultation.ofMerge] using
          Outcome.failed hname hres hfile hmerge
      | ok =>
        simpa [ensureLoaded, hempty, hunknown, hfile, hmerge, Consultation.ofMerge] using
          Outcome.merged hname hres hfile hmerge

/-- **Watching makes no difference**: the source that is watched gets the request answered as
the source itself does. -/
theorem answer_request (c : TemplateCache) (name : String) (w : W) :
    (c.request name w).answer = ((c.ensureLoaded name).run w).answer.1 :=
  congrArg Prod.fst (Watched.run_ensureLoaded c name w []).1

namespace Outcome

variable {r : TemplateRequest} {c' : TemplateCache}

theorem name_eq (h : Outcome c name w r c') : r.name = name := by
  cases h <;> rfl

/-- No request changes how file names are made. -/
theorem fileName_eq (h : Outcome c name w r c') : c'.fileName = c.fileName := by
  cases h <;> rfl

/-- **A file name is remembered** if it was before, or a template of that file name has been
made ready. -/
theorem contains_resolved (h : Outcome c name w r c') (file : String) :
    c'.resolved.contains file
      = (c.resolved.contains file || decide (r.Readied ∧ c.fileName r.name = file)) := by
  cases h with
  | unnamed hname => simp [TemplateRequest.Readied, hname]
  | known hname hknown =>
    have hin : c.resolved.contains (c.fileName name) = true := by
      simpa [isResolved, hname] using hknown
    by_cases hfile : c.fileName name = file
    · simp [← hfile, hin]
    · simp [hfile]
  | absent hname =>
    rw [resolve, Table.contains_insert, Bool.or_comm]
    simp [TemplateRequest.Readied, hname]
  | merged hname =>
    rw [resolve, Table.contains_insert, Bool.or_comm]
    simp [TemplateRequest.Readied, hname]
  | failed => simp [TemplateRequest.Readied]

/-- **A file is merged at most once, and only for a file name that is new**, which is
remembered from then on. -/
theorem merges_le (h : Outcome c name w r c') :
    r.asked.countP Consultation.isMerge + (c.resolved.contains (c.fileName r.name)).toNat
      ≤ (c'.resolved.contains (c.fileName r.name)).toNat := by
  cases h with
  | unnamed => simp
  | known => simp
  | absent hname hnew =>
    rw [(isResolved_eq_false_iff.mp hnew).2]
    exact Nat.zero_le _
  | merged hname hnew =>
    rw [(isResolved_eq_false_iff.mp hnew).2, resolve, Table.contains_insert]
    simp [Consultation.isMerge]
  | failed => simp [Consultation.isMerge]

/-- **Loaded already** is answered just in case the template has been dealt with. -/
theorem alreadyLoaded_iff (h : Outcome c name w r c') (hname : name ≠ "") :
    r.answer = .ok .alreadyLoaded ↔ c.isResolved name = true := by
  cases h with
  | unnamed hempty => exact absurd hempty hname
  | known _ hknown => simp [hknown]
  | absent _ hnew => simp [hnew]
  | merged _ hnew => simp [hnew]
  | failed _ hnew => simp [hnew]

/-- **A request that is refused leaves the cache alone**, and the template is new to it. -/
theorem of_refused {refusal : Refusal} (h : Outcome c name w r c')
    (hrefused : r.answer = .error refusal) : c' = c ∧ c.isResolved name = false := by
  cases h with
  | failed _ hnew => exact ⟨rfl, hnew⟩
  | unnamed => cases hrefused
  | known => cases hrefused
  | absent => cases hrefused
  | merged => cases hrefused

/-- **Of a template that is new the source is asked.** -/
theorem asked_ne_nil (h : Outcome c name w r c') (hnew : c.isResolved name = false) :
    r.asked ≠ [] := by
  cases h with
  | unnamed hempty =>
    subst hempty
    cases hnew
  | known _ hknown => exact absurd (hknown.symm.trans hnew) Bool.noConfusion
  | absent => exact List.cons_ne_nil _ _
  | merged => exact List.cons_ne_nil _ _
  | failed => exact List.cons_ne_nil _ _

end Outcome

end Requests

/-! ## Histories -/

/-- **The histories of a cache**: the requests made of a new cache, one after the other, and the
cache that they have led to. Each finds a source in a state of its own. -/
inductive History (s : TemplateSettings) : List TemplateRequest → TemplateCache → Prop
  /-- Nothing has been asked for. -/
  | fresh : History s [] (ofSettings s)
  /-- One more request was made. -/
  | request {log : List TemplateRequest} {c : TemplateCache} (before : History s log c)
      {W : Type} [TemplateSource W] (name : String) (w : W) :
      History s (log ++ [c.request name w]) (c.after name w)

/-- The file names that have been dealt with in some requests, one for each request that made a
template ready. -/
def readied (s : TemplateSettings) (log : List TemplateRequest) : List String :=
  (log.filter fun r => decide r.Readied).map fun r => (ofSettings s).fileName r.name

/-- How many files were merged by the requests for a file name. -/
def merges (s : TemplateSettings) (log : List TemplateRequest) (file : String) : Nat :=
  ((log.filter fun r => decide ((ofSettings s).fileName r.name = file)).flatMap
    TemplateRequest.asked).countP Consultation.isMerge

section Logs

variable {s : TemplateSettings} {log : List TemplateRequest} {r : TemplateRequest}
  {name file : String}

theorem mem_readied :
    file ∈ readied s log ↔ ∃ r ∈ log, r.Readied ∧ (ofSettings s).fileName r.name = file := by
  simp [readied, and_assoc]

theorem readied_append_of_not (h : ¬ r.Readied) : readied s (log ++ [r]) = readied s log := by
  simp [readied, List.filter_append, h]

theorem readied_append (h : r.Readied) :
    readied s (log ++ [r]) = readied s log ++ [(ofSettings s).fileName r.name] := by
  simp [readied, List.filter_append, h]

theorem merges_append :
    merges s (log ++ [r]) file
      = merges s log file
          + if (ofSettings s).fileName r.name = file then r.asked.countP Consultation.isMerge
            else 0 := by
  unfold merges
  rw [List.filter_append, List.flatMap_append, List.countP_append]
  split
  · next h => simp [h]
  · next h => simp [h]

end Logs

namespace History

variable {s : TemplateSettings} {log : List TemplateRequest} {c : TemplateCache}

/-- A file name is the one that the settings make, whatever has been asked for. -/
theorem fileName_eq (h : History s log c) : c.fileName = (ofSettings s).fileName := by
  induction h with
  | fresh => rfl
  | request before name w ih => exact (outcome_request _ name w).fileName_eq.trans ih

/-- **What is remembered is what has been made ready.** -/
theorem contains_resolved (h : History s log c) (file : String) :
    c.resolved.contains file = decide (file ∈ readied s log) := by
  induction h with
  | fresh => simp [ofSettings, readied]
  | @request log c before W _ name w ih =>
    rw [(outcome_request c name w).contains_resolved, ih, before.fileName_eq]
    by_cases hr : (c.request name w).Readied
    · simp [readied_append hr, hr, eq_comm]
    · simp [readied_append_of_not hr, hr]

/-- **Of the requests for one file name at most one has merged a file**, and then the file name
is remembered. -/
theorem merges_le (h : History s log c) (file : String) :
    merges s log file ≤ (c.resolved.contains file).toNat := by
  induction h with
  | fresh => simp [merges]
  | @request log c before W _ name w ih =>
    have hstep := outcome_request c name w
    rw [merges_append, ← before.fileName_eq]
    split
    · next hfile =>
      subst hfile
      have := hstep.merges_le
      omega
    · next hfile =>
      rw [hstep.contains_resolved, decide_eq_false fun h => hfile h.2, Bool.or_false]
      exact ih

/-- **What is resolved is what has been asked for with success**, under any name with the same
file name. -/
theorem isResolved_iff (h : History s log c) (name : String) :
    c.isResolved name = true
      ↔ name = "" ∨ ∃ r ∈ log, r.Readied ∧
          (ofSettings s).fileName r.name = (ofSettings s).fileName name := by
  rw [isResolved, Bool.or_eq_true, String.isEmpty_iff, h.contains_resolved, h.fileName_eq,
    decide_eq_true_iff, mem_readied]

/-- **As many templates have been dealt with as there are file names made ready.** -/
theorem count_eq (h : History s log c) : c.count = (readied s log).eraseDups.length := by
  refine Table.size_eq_length_eraseDups fun file => ?_
  rw [h.contains_resolved, decide_eq_true_iff]

/-- **The requests are remembered**, whatever is asked for, and whatever the source answers from
one request to the next. At every point of a history a template is resolved just in case it has
no name, or a request with a name and the same file name has been answered well; and as many
templates have been dealt with as there are such file names. The next request with a name is
answered, in every state of any source, as `Outcome` says: that the template was loaded already,
without asking, just in case it is resolved; that the world is assumed to have it, without a
merge, if there is no file; that it was merged, after one merge, if there is one; and with a
refusal that names the template if the merge fails. Then the cache is as it was, and whoever asks
next for the template makes the source be asked again. Over all the requests for one file name
there is at most one merge. -/
theorem remembered (h : History s log c) :
    (∀ name, c.isResolved name = true
      ↔ name = "" ∨ ∃ r ∈ log, r.name ≠ "" ∧ (∃ status, r.answer = .ok status) ∧
          (ofSettings s).fileName r.name = (ofSettings s).fileName name) ∧
    c.count = (readied s log).eraseDups.length ∧
    (∀ (W : Type) [TemplateSource W] (name : String) (w : W), name ≠ "" →
      (c.request name w).answer = ((c.ensureLoaded name).run w).answer.1 ∧
      Outcome c name w (c.request name w) (c.after name w) ∧
      ((c.request name w).answer = .ok .alreadyLoaded ↔ c.isResolved name = true) ∧
      ∀ refusal, (c.request name w).answer = .error refusal →
        c.after name w = c ∧ ∀ (W' : Type) [TemplateSource W'] (w' : W'),
          ((c.after name w).request name w').asked ≠ []) ∧
    ∀ file, merges s log file ≤ 1 := by
  refine ⟨fun name => ?_, h.count_eq, fun W _ name w hname => ?_, fun file =>
    Nat.le_trans (h.merges_le file) (Bool.toNat_le _)⟩
  · rw [h.isResolved_iff]
    simp only [TemplateRequest.Readied, and_assoc]
  · have hstep := outcome_request c name w
    refine ⟨c.answer_request name w, hstep, hstep.alreadyLoaded_iff hname, fun refusal hrefused => ?_⟩
    obtain ⟨hsame, hnew⟩ := hstep.of_refused hrefused
    refine ⟨hsame, fun W' _ w' => ?_⟩
    rw [hsame]
    exact (outcome_request c name w').asked_ne_nil hnew

/-- The file of a crypt is broken when it is first asked for, and sound when it is asked for
again; then it is asked for under its file name, and a hall after it, for which there is no
file. The file was looked for twice and merged once, and two templates have been dealt with. -/
theorem crypt_remembered :
    ∃ log c, History ⟨"maps", "otbm"⟩ log c ∧
      log.map TemplateRequest.name = ["crypt", "crypt", "crypt.otbm", "hall"] ∧
      log.map TemplateRequest.asked =
        [[.probed "maps/crypt.otbm" true, .failed "maps/crypt.otbm"
            (.unmergeable "maps/crypt.otbm" "corrupt map header")],
          [.probed "maps/crypt.otbm" true, .merged "maps/crypt.otbm"], [],
          [.probed "maps/hall.otbm" false]] ∧
      c.isResolved "crypt" = true ∧ c.count = 2 ∧
      (c.request "hall.otbm" MemoryWorld.empty).answer = .ok .alreadyLoaded ∧
      merges ⟨"maps", "otbm"⟩ log "crypt.otbm" ≤ 1 := by
  have broken : History ⟨"maps", "otbm"⟩ _ _ :=
    .request .fresh "crypt" (MemoryWorld.empty.addBrokenTemplate "maps/crypt.otbm")
  have sound := broken.request "crypt" (MemoryWorld.empty.addTemplate "maps/crypt.otbm")
  have again := sound.request "crypt.otbm" (MemoryWorld.empty.addTemplate "maps/crypt.otbm")
  have all := again.request "hall" MemoryWorld.empty
  obtain ⟨hresolved, hcount, hnext, hmerges⟩ := remembered all
  refine ⟨_, _, all, rfl, by decide +kernel, ?_, ?_, ?_, hmerges _⟩
  · exact (hresolved "crypt").mpr (.inr ⟨_, .tail _ (.head _), by decide, ⟨.merged, rfl⟩, rfl⟩)
  · rw [hcount]
    decide +kernel
  · exact ((hnext _ "hall.otbm" MemoryWorld.empty (by decide)).2.2.1).mpr (by decide +kernel)

end History

end TemplateCache

end InstancedZones
