import InstancedZones.Proofs.Consistency

/-!
# The templates of open instances are resolved

An instance is opened once its map template is ready, a template that is ready is
resolved, and a template that is resolved stays so. Hence in every state that a
registry can come to, the template of each open instance is resolved,
`Run.template_resolved`, whatever has become of the template files since.

So the step of a teleport that makes the template ready has nothing left to do. It
leaves the registry as it is, it never fails, and it asks nobody: the teleport comes
out the same if the world is given any other source of templates, one that answers
otherwise or changes the world whenever it is asked.
-/

namespace InstancedZones

namespace Registry

/-- **Every open instance has its template**: there is nothing left to do for it. -/
def TemplatesResolved (r : Registry) : Prop :=
  ∀ (id : InstanceId) (i : Instance), r.instances[id]? = some i →
    r.templates.isResolved i.mapTemplate = true

variable {r : Registry} {player : PlayerId} {id : InstanceId} {i : Instance}

theorem templatesResolved_ofSettings (s : TemplateSettings) : (ofSettings s).TemplatesResolved := by
  intro id i hi
  simp [ofSettings] at hi

namespace TemplatesResolved

theorem enroll (h : r.TemplatesResolved) : (r.enroll player id).TemplatesResolved := by
  intro j k hk
  obtain ⟨players, hbefore⟩ := of_getElem?_enroll hk
  have hresolved := h j _ hbefore
  exact hresolved

theorem withdraw (h : r.TemplatesResolved) : (r.withdraw player id).TemplatesResolved := by
  intro j k hk
  obtain ⟨players, hbefore⟩ := of_getElem?_withdraw hk
  have hresolved := h j _ hbefore
  exact hresolved

/-- An instance can be opened when its template is resolved. -/
theorem add (h : r.TemplatesResolved) (hi : r.templates.isResolved i.mapTemplate = true) :
    (r.add i).TemplatesResolved := by
  intro j k hk
  rcases of_getElem?_add hk with ⟨-, rfl⟩ | hold
  · exact hi
  · exact h j k hold

theorem dissolve (h : r.TemplatesResolved) : (r.dissolve i).TemplatesResolved :=
  fun j k hk => h j k (of_getElem?_dissolve hk)

end TemplatesResolved

/-- No verdict is about a map template. -/
theorem verdict_ne_mapLoad {info : Option PlayerInfo} (name : String) (cause : MergeError) :
    r.verdict player info id ≠ .error (.mapLoad name cause) := by
  unfold verdict
  split
  · simp
  · split
    · simp
    · split
      · simp
      · split <;> simp

end Registry

/-- A world whose templates come from elsewhere. -/
abbrev World.withTemplates {W : Type} [World W] (source : TemplateSource W) : World W where
  toTemplateSource := source
  relocate := World.relocate
  resolve := World.resolve
  partyMembers := World.partyMembers
  setInstance := World.setInstance
  sendNotice := World.sendNotice

namespace Realm

variable {W : Type} [World W] {realm : Realm W} {player : PlayerId} {id : InstanceId}

/-- **A template that is resolved is ready**, and nothing is asked or changed. -/
theorem run_readyTemplate_of_isResolved {name : String}
    (h : realm.registry.templates.isResolved name = true) :
    (readyTemplate name).run realm
      = ⟨.ok (if name.isEmpty then .noTemplate else .alreadyLoaded), realm, []⟩ := by
  rw [run_readyTemplate, TemplateCache.ensureLoaded_of_isResolved h]

/-- **Every building block keeps the templates resolved.** -/
theorem stepsKeep_templatesResolved :
    StepsKeep fun realm : Realm W => realm.registry.TemplatesResolved := .ofRegistry {
  enroll := fun h _ => h.enroll
  withdraw := fun h _ => h.withdraw
  templates := fun h hkept id i hi => hkept _ (h id i hi)
  dissolve := fun h _ => h.dissolve
  add := fun _ _ h hresolved _ => h.add hresolved }

/-! ## Teleporting with the template resolved -/

/-- Whether a player is let in is told by the verdict. -/
theorem answer_bindPlayer (player : PlayerId) (id : InstanceId) (realm : Realm W) :
    ((bindPlayer player id).run realm).answer
      = realm.registry.verdict player ((World.resolve player).run realm.world).answer id := by
  simp only [bindPlayer, Action.run_bind, run_onWorld, run_getRegistry]
  cases realm.registry.verdict player ((World.resolve player).run realm.world).answer id <;> rfl

theorem keeps_templates_bindPlayer (cache : TemplateCache) (player : PlayerId) (id : InstanceId) :
    (bindPlayer player id : Action (Realm W) _).Keeps
      fun realm => realm.registry.templates = cache := by
  intro realm h
  rcases registry_bindPlayer player id realm with hsame | ⟨info, hok, hentered⟩
  · rw [hsame]
    exact h
  · rw [hentered]
    exact h

theorem keeps_templates_playerLeave (cache : TemplateCache) (player : PlayerId) :
    (playerLeave player : Action (Realm W) _).Keeps
      fun realm => realm.registry.templates = cache := by
  intro realm h
  rcases registry_playerLeave player realm with hsame | ⟨id, hin, hleft⟩
  · rw [hsame]
    exact h
  · rw [hleft]
    exact h

/-- **The source of templates has no part in a teleport** when all templates are
resolved: any other source would do. -/
theorem run_teleportInto_withTemplates (h : realm.registry.TemplatesResolved)
    (source : TemplateSource W) (id : InstanceId) (player : PlayerId) :
    (@teleportInto W (World.withTemplates source) id player).run realm
      = (teleportInto id player).run realm := by
  have hbind : @bindPlayer W (World.withTemplates source) player id = bindPlayer player id := rfl
  have hentered := stepsKeep_templatesResolved.bindPlayer player id realm h
  unfold teleportInto
  rw [hbind]
  refine Action.run_bind_congr rfl ?_
  cases ((bindPlayer player id).run realm).answer with
  | error refusal => rfl
  | ok =>
    refine Action.run_bind_congr rfl ?_
    rw [run_getRegistry]
    cases hi : ((bindPlayer player id).run realm).state.registry.instances[id]? with
    | none => rfl
    | some i =>
      -- both sources leave the realm as it is, and the lines after ask neither
      have hready := run_readyTemplate_of_isResolved (hentered id i hi)
      have hready' := @run_readyTemplate_of_isResolved W (World.withTemplates source) _ _
        (hentered id i hi)
      refine Action.run_bind_congr (hready'.trans hready.symm) ?_
      rw [hready']
      rfl

/-- **A teleport leaves the templates as they are**, and is not refused for one,
when all are resolved. -/
theorem teleportInto_of_templatesResolved (h : realm.registry.TemplatesResolved) (id : InstanceId)
    (player : PlayerId) :
    ((teleportInto id player).run realm).state.registry.templates = realm.registry.templates ∧
      ∀ name cause, ((teleportInto id player).run realm).answer ≠ .error (.mapLoad name cause) := by
  have hentered := stepsKeep_templatesResolved.bindPlayer player id realm h
  have hkept := keeps_templates_bindPlayer _ player id realm rfl
  have hverdict := answer_bindPlayer player id realm
  simp only [teleportInto, Action.run_bind]
  cases hanswer : ((bindPlayer player id).run realm).answer with
  | error refusal =>
    refine ⟨hkept, fun name cause heq => ?_⟩
    exact Registry.verdict_ne_mapLoad name cause (hverdict.symm.trans (hanswer.trans heq))
  | ok =>
    simp only [Action.run_bind, run_getRegistry]
    cases hi : ((bindPlayer player id).run realm).state.registry.instances[id]? with
    | none => exact ⟨hkept, fun name cause => by simp⟩
    | some i =>
      simp only [Action.run_bind, run_readyTemplate_of_isResolved (hentered id i hi)]
      split
      · exact ⟨hkept, fun name cause => by simp⟩
      · refine ⟨?_, fun name cause => by simp⟩
        exact keeps_templates_playerLeave _ player _ hkept

end Realm

variable {W : Type} [World W]

/-- The templates of the open instances are resolved on the way too, since the world
cannot touch the registry's cache as it goes on. -/
theorem Run.templatesResolved {drift : W → W → Prop} {s : TemplateSettings} {w : W}
    {log : List (Call × Except Refusal Reply)} {realm : Realm W}
    (run : Run drift ⟨.ofSettings s, w⟩ log realm) : realm.registry.TemplatesResolved :=
  run.keeps Realm.stepsKeep_templatesResolved (fun _ _ h _ => h)
    (Registry.templatesResolved_ofSettings s)

/-- **Every open instance has its template resolved after every run**, in every world
and however it goes on. So a teleport never asks the source of templates for
anything, it leaves the cache as it is, and it is never refused because a template
could not be loaded. -/
theorem Run.template_resolved {drift : W → W → Prop} {s : TemplateSettings} {w : W}
    {log : List (Call × Except Refusal Reply)} {realm : Realm W}
    (run : Run drift ⟨.ofSettings s, w⟩ log realm) :
    (∀ (id : InstanceId) (i : Instance), realm.registry.instances[id]? = some i →
      realm.registry.templates.isResolved i.mapTemplate = true) ∧
    ∀ id player,
      (∀ source : TemplateSource W,
        (@Realm.teleportInto W (World.withTemplates source) id player).run realm
          = (Realm.teleportInto id player).run realm) ∧
      ((Realm.teleportInto id player).run realm).state.registry.templates
        = realm.registry.templates ∧
      ∀ name cause,
        ((Realm.teleportInto id player).run realm).answer ≠ .error (.mapLoad name cause) := by
  have h : realm.registry.TemplatesResolved :=
    run.keeps Realm.stepsKeep_templatesResolved (fun _ _ h _ => h)
      (Registry.templatesResolved_ofSettings s)
  refine ⟨h, fun id player => ⟨fun source => ?_, ?_⟩⟩
  · exact Realm.run_teleportInto_withTemplates h source id player
  · exact Realm.teleportInto_of_templatesResolved h id player

/-- A crypt is opened while its file is sound, and the file is broken afterwards: its
template is resolved, and a player is still teleported in. -/
theorem Run.crypt_resolved :
    ∃ log realm,
      Run MemoryWorld.Change
        ⟨.ofSettings ⟨"maps", "otbm"⟩, MemoryWorld.trio.addTemplate "maps/crypt.otbm"⟩ log realm ∧
      log.map Prod.fst = [.create { Blueprint.plain with mapTemplate := "crypt" } .epoch] ∧
      MemoryWorld.among realm.world.broken "maps/crypt.otbm" = true ∧
      realm.registry.templates.isResolved "crypt" = true ∧
      (∀ name cause, ((Realm.teleportInto ⟨1⟩ ⟨3⟩).run realm).answer
        ≠ .error (.mapLoad name cause)) ∧
      ((Realm.teleportInto ⟨1⟩ ⟨3⟩).run realm).state.registry.isPlayerBound ⟨3⟩ ⟨1⟩ = true := by
  have started : Run MemoryWorld.Change ⟨.ofSettings ⟨"maps", "otbm"⟩,
      MemoryWorld.trio.addTemplate "maps/crypt.otbm"⟩ [] _ := .start
  have opened := started.call (.create { Blueprint.plain with mapTemplate := "crypt" } .epoch)
    fun _ _ => ⟨0, by decide +kernel⟩
  have run := opened.drift (.addBrokenTemplate "maps/crypt.otbm")
  obtain ⟨hresolved, hteleport⟩ := template_resolved run
  refine ⟨_, _, run, rfl, by decide +kernel, ?_, (hteleport ⟨1⟩ ⟨3⟩).2.2, by decide +kernel⟩
  exact hresolved ⟨1⟩ _ rfl

end InstancedZones
