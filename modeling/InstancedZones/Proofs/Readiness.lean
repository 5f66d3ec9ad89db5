import InstancedZones.Proofs.Collections
import InstancedZones.Registry.Lifecycle

/-!
# Making a template ready

What a request for a map template comes to, case by case and for every source of
templates: a template that is resolved is ready and the source is not asked; for
any other the source is asked whether there is a file, and if there is one, to
merge it. Nothing but a merge that fails leaves a template unresolved.
-/

namespace InstancedZones

namespace TemplateCache

/-- A template that has been dealt with is resolved. -/
theorem isResolved_resolve (c : TemplateCache) (name : String) :
    (c.resolve name).isResolved name = true := by
  simp [isResolved, resolve, fileName]

/-- Dealing with a template forgets none. -/
theorem isResolved_resolve_of_isResolved {c : TemplateCache} {name : String} (other : String)
    (h : c.isResolved name = true) : (c.resolve other).isResolved name = true := by
  rw [isResolved, Bool.or_eq_true] at h ⊢
  refine h.imp_right fun hknown => ?_
  show (c.resolved.insert (c.fileName other)).contains (c.fileName name) = true
  rw [Table.contains_insert, hknown, Bool.or_true]

variable {W : Type} [TemplateSource W] {c : TemplateCache} {name : String} {w : W}

/-- **A resolved template is ready**, and nobody is asked about it. -/
theorem ensureLoaded_of_isResolved (h : c.isResolved name = true) :
    (c.ensureLoaded name).run w
      = ⟨(.ok (if name.isEmpty then .noTemplate else .alreadyLoaded), c), w, []⟩ := by
  unfold ensureLoaded
  by_cases hempty : name.isEmpty = true
  · rw [if_pos hempty, if_pos hempty]
    rfl
  · have hknown : c.resolved.contains (c.fileName name) = true := by
      simpa [isResolved, hempty] using h
    rw [if_neg hempty, if_neg hempty, if_pos hknown]
    rfl

/-- What is not resolved has a name, and the name is not known. -/
theorem isResolved_eq_false_iff :
    c.isResolved name = false
      ↔ name.isEmpty = false ∧ c.resolved.contains (c.fileName name) = false := by
  rw [isResolved, Bool.or_eq_false_iff]

/-- **Without a file a template is ready**: the world is taken as it is. -/
theorem ensureLoaded_of_absent (h : c.isResolved name = false)
    (habsent : ((TemplateSource.templateExists (c.path name)).run w).answer = false) :
    (c.ensureLoaded name).run w
      = ⟨(.ok .assumedBaseWorld, c.resolve name),
          ((TemplateSource.templateExists (c.path name)).run w).state,
          ((TemplateSource.templateExists (c.path name)).run w).events ++
            [.debug "no template file, assuming base world"
              [("template", name), ("path", c.path name)]]⟩ := by
  obtain ⟨hempty, hknown⟩ := isResolved_eq_false_iff.mp h
  simp [ensureLoaded, hempty, hknown, habsent]

/-- **A file that cannot be merged** is a refusal, and leaves the template
unresolved. -/
theorem ensureLoaded_of_unmergeable {cause : MergeError} {probed : W}
    (h : c.isResolved name = false)
    (hpresent : ((TemplateSource.templateExists (c.path name)).run w).answer = true)
    (hprobed : ((TemplateSource.templateExists (c.path name)).run w).state = probed)
    (hmerge : ((TemplateSource.mergeTemplate (c.path name)).run probed).answer = .error cause) :
    ((c.ensureLoaded name).run w).answer = (.error (.mapLoad name cause), c) ∧
      ((c.ensureLoaded name).run w).state
        = ((TemplateSource.mergeTemplate (c.path name)).run probed).state := by
  obtain ⟨hempty, hknown⟩ := isResolved_eq_false_iff.mp h
  simp [ensureLoaded, hempty, hknown, hpresent, hprobed, hmerge]

/-- **A file that is merged** makes the template ready. -/
theorem ensureLoaded_of_mergeable {probed : W} (h : c.isResolved name = false)
    (hpresent : ((TemplateSource.templateExists (c.path name)).run w).answer = true)
    (hprobed : ((TemplateSource.templateExists (c.path name)).run w).state = probed)
    (hmerge : ((TemplateSource.mergeTemplate (c.path name)).run probed).answer = .ok ()) :
    ((c.ensureLoaded name).run w).answer = (.ok .merged, c.resolve name) ∧
      ((c.ensureLoaded name).run w).state
        = ((TemplateSource.mergeTemplate (c.path name)).run probed).state := by
  obtain ⟨hempty, hknown⟩ := isResolved_eq_false_iff.mp h
  simp [ensureLoaded, hempty, hknown, hpresent, hprobed, hmerge]

/-- **What a request comes to**: nothing for a template that is resolved, a refusal that
leaves the cache alone, or a template that has been dealt with. -/
theorem ensureLoaded_cases (c : TemplateCache) (name : String) (w : W) :
    (c.isResolved name = true ∧ ((c.ensureLoaded name).run w).answer.2 = c) ∨
    ((∃ refusal, ((c.ensureLoaded name).run w).answer.1 = .error refusal) ∧
      ((c.ensureLoaded name).run w).answer.2 = c) ∨
    ((∃ status, ((c.ensureLoaded name).run w).answer.1 = .ok status) ∧
      ((c.ensureLoaded name).run w).answer.2 = c.resolve name) := by
  cases hres : c.isResolved name with
  | true =>
    rw [ensureLoaded_of_isResolved hres]
    exact .inl ⟨rfl, rfl⟩
  | false =>
    cases hfile : ((TemplateSource.templateExists (c.path name)).run w).answer with
    | false =>
      rw [ensureLoaded_of_absent hres hfile]
      exact .inr (.inr ⟨⟨_, rfl⟩, rfl⟩)
    | true =>
      cases hmerge : ((TemplateSource.mergeTemplate (c.path name)).run
          ((TemplateSource.templateExists (c.path name)).run w).state).answer with
      | error cause =>
        rw [(ensureLoaded_of_unmergeable hres hfile rfl hmerge).1]
        exact .inr (.inl ⟨⟨_, rfl⟩, rfl⟩)
      | ok =>
        rw [(ensureLoaded_of_mergeable hres hfile rfl hmerge).1]
        exact .inr (.inr ⟨⟨_, rfl⟩, rfl⟩)

/-- **A ready template is resolved**, however it came to be ready. -/
theorem isResolved_of_ensureLoaded {status : TemplateStatus}
    (h : ((c.ensureLoaded name).run w).answer.1 = .ok status) :
    ((c.ensureLoaded name).run w).answer.2.isResolved name = true := by
  rcases ensureLoaded_cases c name w with ⟨hres, hsame⟩ | ⟨⟨refusal, hrefused⟩, -⟩ | ⟨-, hdealt⟩
  · rw [hsame]
    exact hres
  · rw [h] at hrefused
    cases hrefused
  · rw [hdealt]
    exact c.isResolved_resolve name

/-- A request that fails leaves the cache alone. -/
theorem cache_of_ensureLoaded_refused {refusal : Refusal}
    (h : ((c.ensureLoaded name).run w).answer.1 = .error refusal) :
    ((c.ensureLoaded name).run w).answer.2 = c := by
  rcases ensureLoaded_cases c name w with ⟨-, hsame⟩ | ⟨-, hsame⟩ | ⟨⟨status, hready⟩, -⟩
  · exact hsame
  · exact hsame
  · rw [h] at hready
    cases hready

/-- What is resolved stays resolved, whatever is asked for. -/
theorem isResolved_ensureLoaded (h : c.isResolved name = true) (other : String) (w : W) :
    ((c.ensureLoaded other).run w).answer.2.isResolved name = true := by
  rcases ensureLoaded_cases c other w with ⟨-, hsame⟩ | ⟨-, hsame⟩ | ⟨-, hdealt⟩
  · rw [hsame]
    exact h
  · rw [hsame]
    exact h
  · rw [hdealt]
    exact isResolved_resolve_of_isResolved other h

end TemplateCache

namespace Realm

variable {W : Type} [TemplateSource W]

/-- **Making a template ready** is a matter of the templates alone: of the
registry nothing else changes. -/
theorem run_readyTemplate (name : String) (realm : Realm W) :
    (readyTemplate name).run realm
      = ⟨((realm.registry.templates.ensureLoaded name).run realm.world).answer.1,
          { registry :=
              { realm.registry with
                templates :=
                  ((realm.registry.templates.ensureLoaded name).run realm.world).answer.2 }
            world := ((realm.registry.templates.ensureLoaded name).run realm.world).state },
          ((realm.registry.templates.ensureLoaded name).run realm.world).events⟩ := by
  simp [readyTemplate, getRegistry, onWorld, modifyRegistry]

end Realm

end InstancedZones
