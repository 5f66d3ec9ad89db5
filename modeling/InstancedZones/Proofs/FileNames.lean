import InstancedZones.Proofs.TemplateRequests

/-!
# Names with and without the extension

A template may be named with its extension or without, and the file name is the one with it.
Whether a name has the extension is read off the path: it is what follows the last point of the
last piece, and so it never holds a point or a slash itself, `Path.marks_of_extension?`. But the
extension is put behind the name as text. So a file name is its own file name, and naming a
template by it is naming the same template, unless what is put behind the name is not what is
found there afterwards: an extension with a point or a slash in it is never found, and behind a
slash there is nothing that a point could follow, `TemplateCache.History.one_template_iff`.
-/

namespace InstancedZones

namespace Path

/-! ## The last piece of a path -/

/-- There is one piece at least. -/
theorem segments_ne_nil (l : List Char) : segments l ≠ [] := by
  cases l with
  | nil => exact List.cons_ne_nil _ _
  | cons c rest =>
    rw [segments]
    split
    · exact List.cons_ne_nil _ _
    · cases segments rest with
      | nil => exact List.cons_ne_nil _ _
      | cons piece pieces => exact List.cons_ne_nil _ _

/-- What holds no slash is one piece. -/
theorem segments_of_notMem {l : List Char} (h : '/' ∉ l) : segments l = [l] := by
  induction l with
  | nil => rfl
  | cons c rest ih =>
    rw [List.mem_cons, not_or] at h
    rw [segments, if_neg (Ne.symm h.1), ih h.2]

/-- **A slash divides** the pieces before it from those after it. -/
theorem segments_append_slash (before after : List Char) :
    segments (before ++ '/' :: after) = segments before ++ segments after := by
  induction before with
  | nil => rfl
  | cons c rest ih =>
    rw [List.cons_append, segments, segments, ih]
    split
    · rfl
    · cases hrest : segments rest with
      | nil => exact absurd hrest (segments_ne_nil rest)
      | cons piece pieces => rfl

/-- No piece holds a slash. -/
theorem slash_notMem_of_mem_segments {l piece : List Char} (h : piece ∈ segments l) :
    '/' ∉ piece := by
  induction l generalizing piece with
  | nil =>
    obtain rfl := List.mem_singleton.mp h
    exact List.not_mem_nil
  | cons c rest ih =>
    rw [segments] at h
    split at h
    · rcases List.mem_cons.mp h with rfl | h
      · exact List.not_mem_nil
      · exact ih h
    · next hc =>
      cases hrest : segments rest with
      | nil => exact absurd hrest (segments_ne_nil rest)
      | cons first pieces =>
        rw [hrest] at h ih
        rcases List.mem_cons.mp h with rfl | h
        · rw [List.mem_cons, not_or]
          exact ⟨Ne.symm hc, ih List.mem_cons_self⟩
        · exact ih (List.mem_cons_of_mem _ h)

/-- **Every text ends in a piece**, which is the whole of it or stands behind a slash. -/
theorem exists_last_piece (l : List Char) :
    '/' ∉ l ∨ ∃ before piece, l = before ++ '/' :: piece ∧ '/' ∉ piece := by
  by_cases h : '/' ∈ l
  · obtain ⟨piece, before, hl, hpiece⟩ := List.eq_append_cons_of_mem (List.mem_reverse.mpr h)
    refine .inr ⟨before.reverse, piece.reverse, ?_, mt List.mem_reverse.mp hpiece⟩
    rw [← l.reverse_reverse, hl]
    simp
  · exact .inl h

/-! ## The extension -/

/-- The file name is the last piece, if that leads anywhere but up. -/
theorem fileName?_of_segments {path : String} {front : List (List Char)} {piece : List Char}
    (h : segments path.toList = front ++ [piece]) (hstep : isStep piece = true)
    (hup : piece ≠ ['.', '.']) : fileName? path = some piece := by
  have hdot : piece ≠ ['.'] := by
    rintro rfl
    cases hstep
  have hlast : (parts path).steps.getLast? = some piece := by
    simp only [parts, h, List.filter_append, List.filter_cons_of_pos hstep, List.filter_nil]
    split
    · rw [← List.cons_append, List.getLast?_concat]
    · rw [List.getLast?_concat]
  rw [fileName?, hlast]
  simp [hdot, hup]

/-- **The extension is what follows the last point** of the file name, if anything stands before
the point. -/
theorem extension?_of_fileName? {path : String} {base ext : List Char} (hext : '.' ∉ ext)
    (h : fileName? path = some (base ++ '.' :: ext)) :
    extension? path = if base = [] then none else some ext := by
  have hafter : ((base ++ '.' :: ext).reverse.takeWhile (· ≠ '.')).reverse = ext := by
    have hall : ∀ c ∈ ext.reverse, decide (c ≠ '.') = true := fun c hc => decide_eq_true fun hdot =>
      hext (hdot ▸ List.mem_reverse.mp hc)
    rw [List.reverse_append, List.reverse_cons, List.append_assoc,
      List.takeWhile_append_of_pos hall, List.singleton_append,
      List.takeWhile_cons_of_neg (by simp), List.append_nil, List.reverse_reverse]
  have hlength : ext.length + 1 < (base ++ '.' :: ext).length ↔ ¬ base = [] := by
    rw [List.length_append, List.length_cons, ← List.length_eq_zero_iff]
    omega
  rw [extension?, h]
  simp only [hafter, hlength, ite_not]

/-- A file name is a piece of the path. -/
theorem mem_segments_of_fileName? {path : String} {name : List Char}
    (h : fileName? path = some name) : name ∈ segments path.toList := by
  rw [fileName?] at h
  split at h
  · cases h
  · next last hlast =>
    split at h
    · cases h
    · next hplain =>
      obtain rfl := Option.some.inj h
      have hmem := List.mem_of_getLast? hlast
      rw [parts] at hmem
      dsimp only at hmem
      split at hmem
      · rcases List.mem_cons.mp hmem with rfl | hmem
        · exact absurd rfl hplain
        · exact (List.mem_filter.mp hmem).1
      · exact (List.mem_filter.mp hmem).1

/-- **What is found as an extension holds no point and no slash.** -/
theorem marks_of_extension? {path : String} {found : List Char}
    (h : extension? path = some found) : '.' ∉ found ∧ '/' ∉ found := by
  rw [extension?] at h
  split at h
  · cases h
  · next name hname =>
    dsimp only at h
    split at h
    · obtain rfl := Option.some.inj h
      refine ⟨fun hdot => ?_, fun hslash => ?_⟩
      · have hall := List.all_eq_true.mp List.all_takeWhile _ (List.mem_reverse.mp hdot)
        exact absurd rfl (of_decide_eq_true hall)
      · have hmem := List.mem_reverse.mp
          (List.takeWhile_subset _ (List.mem_reverse.mp hslash))
        exact slash_notMem_of_mem_segments (mem_segments_of_fileName? hname) hmem
    · cases h

/-- **The extension of a path is that of its last piece**, which is what follows a point there if
that holds no point itself. -/
theorem extension?_of_segments {path : String} {front : List (List Char)} {base ext : List Char}
    (h : segments path.toList = front ++ [base ++ '.' :: ext]) (hsome : ext ≠ [])
    (hdot : '.' ∉ ext) : extension? path = if base = [] then none else some ext := by
  refine extension?_of_fileName? hdot (fileName?_of_segments h ?_ ?_)
  · cases base <;> simp [isStep, hsome]
  · intro hup
    -- the two points would be the last piece, and the second one would end the extension
    have hlast := congrArg List.getLast? hup
    rw [List.getLast?_append_of_ne_nil _ (List.cons_ne_nil _ _), ← List.singleton_append,
      List.getLast?_append_of_ne_nil _ hsome] at hlast
    exact hdot (List.mem_of_getLast? hlast)

/-- A text ends in a slash if its last piece is empty. -/
theorem getLast?_append_slash_iff {before piece : List Char} (hpiece : '/' ∉ piece) :
    (before ++ '/' :: piece).getLast? = some '/' ↔ piece = [] := by
  rw [← List.singleton_append, ← List.append_assoc]
  constructor
  · intro hend
    by_contra hsome
    rw [List.getLast?_append_of_ne_nil _ hsome] at hend
    exact hpiece (List.mem_of_getLast? hend)
  · rintro rfl
    rw [List.append_nil, List.getLast?_concat]

/-- **A point and a new ending make the extension**, unless they stand behind a slash. -/
theorem extension?_append {name ext : String} (hname : name ≠ "") (hext : ext ≠ "")
    (hdot : '.' ∉ ext.toList) (hslash : '/' ∉ ext.toList) :
    extension? (name ++ "." ++ ext)
      = if name.toList.getLast? = some '/' then none else some ext.toList := by
  have htext : (name ++ "." ++ ext).toList = name.toList ++ '.' :: ext.toList := by simp
  have hsome : ext.toList ≠ [] := mt String.toList_eq_nil_iff.mp hext
  -- what stands behind the last slash of the name is lengthened to the last piece
  rcases exists_last_piece name.toList with hnone | ⟨before, piece, hbefore, hpiece⟩
  · have hwhole : segments (name ++ "." ++ ext).toList
        = [] ++ [name.toList ++ '.' :: ext.toList] := by
      rw [htext, List.nil_append]
      exact segments_of_notMem (by simp [hnone, hslash])
    rw [extension?_of_segments hwhole hsome hdot, if_neg (mt String.toList_eq_nil_iff.mp hname),
      if_neg fun hend => hnone (List.mem_of_getLast? hend)]
  · have hlengthened : '/' ∉ piece ++ '.' :: ext.toList := by simp [hpiece, hslash]
    have hsplit : segments (name ++ "." ++ ext).toList
        = segments before ++ [piece ++ '.' :: ext.toList] := by
      rw [htext, hbefore, List.append_assoc, List.cons_append, segments_append_slash,
        segments_of_notMem hlengthened]
    rw [extension?_of_segments hsplit hsome hdot, hbefore]
    simp only [getLast?_append_slash_iff hpiece]

/-- A mark is not what a letter becomes in another case. -/
theorem eq_of_toLower_eq {c d : Char} (hc : c.val < 65) (h : d.toLower = c) : d = c := by
  unfold Char.toLower at h
  split at h
  · next hupper =>
    have hnumber : (d.val.toNat + 32) % 4294967296 = c.val.toNat :=
      congrArg (fun letter => letter.val.toNat) h
    have hlow : 65 ≤ d.val.toNat := UInt32.le_iff_toNat_le.mp hupper.1
    have hhigh : d.val.toNat ≤ 90 := UInt32.le_iff_toNat_le.mp hupper.2
    have hmark : c.val.toNat < 65 := UInt32.lt_iff_toNat_lt.mp hc
    omega
  · exact h

/-- **Texts that differ in case at most have the same marks.** -/
theorem mem_of_sameIgnoringCase {a b : List Char} (h : sameIgnoringCase a b = true) {c : Char}
    (hc : c.val < 65) (hb : c ∈ b) : c ∈ a := by
  have hlower : c.toLower ∈ a.map Char.toLower := by
    rw [eq_of_beq h]
    exact List.mem_map_of_mem hb
  have hmark : c.toLower = c := by
    unfold Char.toLower
    exact dif_neg fun hupper => absurd hc (UInt32.not_lt.mpr hupper.1)
  obtain ⟨d, hd, heq⟩ := List.mem_map.mp hlower
  rwa [← eq_of_toLower_eq hc (heq.trans hmark)]

end Path

namespace TemplateCache

variable {c : TemplateCache} {name : String}

/-! ## File names of file names -/

/-- Whether a name has the extension, in any case of its letters. -/
def carries (c : TemplateCache) (name : String) : Bool :=
  (Path.extension? name).any fun found => Path.sameIgnoringCase found c.extension.toList

theorem fileName_eq_ite (c : TemplateCache) (name : String) :
    c.fileName name
      = if c.carries name || c.extension.isEmpty then name else name ++ "." ++ c.extension :=
  rfl

theorem fileName_ne_empty (hname : name ≠ "") : c.fileName name ≠ "" := by
  rw [fileName_eq_ite]
  split
  · exact hname
  · simp [String.append_eq_empty_iff]

/-- A name has no extension with a point or a slash in it. -/
theorem marks_of_carries (h : c.carries name = true) :
    '.' ∉ c.extension.toList ∧ '/' ∉ c.extension.toList := by
  obtain ⟨found, hfound, hsame⟩ := (Option.any_eq_true ..).mp h
  obtain ⟨hdot, hslash⟩ := Path.marks_of_extension? hfound
  exact ⟨fun hmark => hdot (Path.mem_of_sameIgnoringCase hsame (by decide) hmark),
    fun hmark => hslash (Path.mem_of_sameIgnoringCase hsame (by decide) hmark)⟩

/-- **The name is found to have the extension once it has been put there**: there is no
extension to put there, or the name has it, or neither a point or slash in the extension nor a
slash at the end of the name keeps it from being found. -/
def Settles (c : TemplateCache) (name : String) : Prop :=
  c.extension = "" ∨ c.carries name = true ∨
    ('.' ∉ c.extension.toList ∧ '/' ∉ c.extension.toList ∧ name.toList.getLast? ≠ some '/')

instance : Decidable (c.Settles name) := inferInstanceAs (Decidable (_ ∨ _ ∨ _))

/-- **The extension that has been put behind a name is found there** unless a mark keeps it from
being found. -/
theorem carries_append_iff (hname : name ≠ "") (hext : c.extension ≠ "") :
    c.carries (name ++ "." ++ c.extension) = true
      ↔ '.' ∉ c.extension.toList ∧ '/' ∉ c.extension.toList ∧
          name.toList.getLast? ≠ some '/' := by
  constructor
  · intro h
    obtain ⟨hdot, hslash⟩ := marks_of_carries h
    refine ⟨hdot, hslash, fun hend => ?_⟩
    rw [carries, Path.extension?_append hname hext hdot hslash, if_pos hend] at h
    cases h
  · rintro ⟨hdot, hslash, hend⟩
    rw [carries, Path.extension?_append hname hext hdot hslash, if_neg hend]
    exact beq_self_eq_true _

/-- **A file name is its own file name** just in case the name settles. -/
theorem fileName_fileName_iff (hname : name ≠ "") :
    c.fileName (c.fileName name) = c.fileName name ↔ c.Settles name := by
  unfold Settles
  by_cases hext : c.extension = ""
  · simp [fileName_eq_ite, hext]
  · by_cases hcarries : c.carries name = true
    · simp [fileName_eq_ite, hcarries]
    · have hput : c.fileName name = name ++ "." ++ c.extension := by
        simp [fileName_eq_ite, hcarries, hext]
      have hlonger : name ++ "." ++ c.extension ++ "." ++ c.extension
          ≠ name ++ "." ++ c.extension := fun heq => by
        have hlength := congrArg String.length heq
        simp only [String.length_append] at hlength
        have hpoint : ".".length = 1 := rfl
        omega
      rw [hput, ← carries_append_iff hname hext, fileName_eq_ite]
      by_cases hfound : c.carries (name ++ "." ++ c.extension) = true
      · simp [hfound]
      · simp [hfound, hcarries, hext, hlonger]

/-! ## One template under two names -/

namespace History

variable {s : TemplateSettings} {log : List TemplateRequest} {W : Type} [TemplateSource W]

/-- Where a file name is its own file name, a template that has been made ready is loaded already
under its file name. -/
theorem alreadyLoaded_of_fileName_fileName (h : History s log c) (hname : name ≠ "")
    (hfixed : (ofSettings s).fileName ((ofSettings s).fileName name) = (ofSettings s).fileName name)
    {r : TemplateRequest} (hr : r ∈ log) (hasked : r.name = name) {status : TemplateStatus}
    (hready : r.answer = .ok status) (w : W) :
    ((c.ensureLoaded (c.fileName name)).run w).answer.1 = .ok .alreadyLoaded := by
  rw [← answer_request,
    (outcome_request _ _ w).alreadyLoaded_iff (fileName_ne_empty hname), h.isResolved_iff,
    h.fileName_eq, hfixed]
  exact .inr ⟨r, hr, ⟨hasked.symm ▸ hname, status, hready⟩, by rw [hasked]⟩

/-- Where there are no files, a new cache takes every template for part of the world. -/
theorem answer_request_fresh (s : TemplateSettings) (hname : name ≠ "") :
    ((ofSettings s).request name MemoryWorld.empty).answer = .ok .assumedBaseWorld := by
  have hnew : (ofSettings s).isResolved name = false := by
    simp [isResolved, ofSettings, hname]
  rw [answer_request, ensureLoaded_of_absent hnew rfl]

/-- **The extension is put only where it is missing** just in case it is found where it has been
put: a file name is then its own file name, and once a template has been asked for with success
it is loaded already under its file name, whatever else has been asked for and whatever source is
there. This holds unless the extension has a point or a slash in it (points in front do not
count), or the name ends in a slash and does not have the extension. -/
theorem one_template_iff (s : TemplateSettings) {name : String} (hname : name ≠ "") :
    ((ofSettings s).fileName ((ofSettings s).fileName name) = (ofSettings s).fileName name
      ↔ (ofSettings s).Settles name) ∧
    ((∀ log c, History s log c →
        (∃ r ∈ log, r.name = name ∧ ∃ status, r.answer = .ok status) →
        ∀ (W : Type) [TemplateSource W] (w : W),
          ((c.ensureLoaded (c.fileName name)).run w).answer.1 = .ok .alreadyLoaded)
      ↔ (ofSettings s).Settles name) := by
  have hfixed := fileName_fileName_iff (c := ofSettings s) hname
  refine ⟨hfixed, fun h => hfixed.mp ?_, ?_⟩
  · -- a new cache in a world without files has nothing to go by but this one request
    have hfirst : History s _ _ := .request .fresh name MemoryWorld.empty
    have hasked := (outcome_request (ofSettings s) name MemoryWorld.empty).name_eq
    have hloaded := h _ _ hfirst
      ⟨_, List.mem_singleton_self _, hasked, _, answer_request_fresh s hname⟩ _ MemoryWorld.empty
    rw [← answer_request, (outcome_request _ _ _).alreadyLoaded_iff (fileName_ne_empty hname),
      hfirst.isResolved_iff, hfirst.fileName_eq] at hloaded
    obtain ⟨r, hr, -, hsame⟩ := hloaded.resolve_left (fileName_ne_empty hname)
    rw [List.nil_append, List.mem_singleton] at hr
    rw [hr, hasked] at hsame
    exact hsame.symm
  · rintro hsettles log c h ⟨r, hr, hasked, status, hready⟩ W _ w
    exact h.alreadyLoaded_of_fileName_fileName hname (hfixed.mpr hsettles) hr hasked hready w

/-- A crypt may be named with its extension or without. -/
theorem crypt_is_one_template :
    "crypt" ≠ "" ∧ (ofSettings ⟨"maps", "otbm"⟩).Settles "crypt" ∧
      (ofSettings ⟨"maps", "otbm"⟩).fileName ((ofSettings ⟨"maps", "otbm"⟩).fileName "crypt")
        = (ofSettings ⟨"maps", "otbm"⟩).fileName "crypt" ∧
      ∃ log c, History ⟨"maps", "otbm"⟩ log c ∧
        log.map TemplateRequest.name = ["crypt"] ∧
        ((c.ensureLoaded (c.fileName "crypt")).run MemoryWorld.empty).answer.1
          = .ok .alreadyLoaded := by
  have hsettles : (ofSettings ⟨"maps", "otbm"⟩).Settles "crypt" := by decide +kernel
  obtain ⟨hfixed, hloaded⟩ := one_template_iff ⟨"maps", "otbm"⟩ (show "crypt" ≠ "" by decide)
  have merged : History ⟨"maps", "otbm"⟩ _ _ :=
    .request .fresh "crypt" (MemoryWorld.empty.addTemplate "maps/crypt.otbm")
  exact ⟨by decide, hsettles, hfixed.mpr hsettles, _, _, merged, rfl, hloaded.mpr hsettles _ _ merged
    ⟨_, List.mem_singleton_self _, rfl, .merged, rfl⟩ _ _⟩

/-- **Where the extension has a point in it, it is put behind itself.** The archive of a crypt is
merged when it is named without its extension; when it is named with it, another file is looked
for. -/
theorem archive_is_two_templates :
    (ofSettings ⟨"maps", "tar.gz"⟩).fileName "crypt" = "crypt.tar.gz" ∧
      (ofSettings ⟨"maps", "tar.gz"⟩).fileName "crypt.tar.gz" = "crypt.tar.gz.tar.gz" ∧
      ∃ log c, History ⟨"maps", "tar.gz"⟩ log c ∧
        log.map TemplateRequest.name = ["crypt"] ∧
        log.map TemplateRequest.answer = [.ok .merged] ∧
        ((c.ensureLoaded "crypt.tar.gz").run
          (MemoryWorld.empty.addTemplate "maps/crypt.tar.gz")).answer.1 = .ok .assumedBaseWorld :=
  ⟨by decide +kernel, by decide +kernel, _, _,
    .request .fresh "crypt" (MemoryWorld.empty.addTemplate "maps/crypt.tar.gz"), rfl, rfl, rfl⟩

end History

end TemplateCache

end InstancedZones
