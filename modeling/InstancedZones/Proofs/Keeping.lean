import InstancedZones.Registry.Basic

/-!
# What an action keeps

A fact about the state is *kept* by an action if it holds after every run that
starts where it holds, whatever the action answers. Being kept passes from the
parts of an action to the whole, so an operation that is written with `do` keeps
whatever its lines keep, and an invariant has to be shown of the lines only.
-/

namespace InstancedZones

namespace Action

variable {σ α β : Type} {I : σ → Prop}

/-- **The action keeps `I`**: where `I` holds before it, `I` holds after it. -/
def Keeps (I : σ → Prop) (x : Action σ α) : Prop := ∀ s, I s → I (x.run s).state

/-- An answer alone changes nothing. -/
theorem keeps_pure (a : α) : (pure a : Action σ α).Keeps I := fun _ h => h

/-- **One after the other**: two actions that keep `I` keep it in a row. -/
theorem Keeps.bind {x : Action σ α} {f : α → Action σ β} (hx : x.Keeps I)
    (hf : ∀ a, (f a).Keeps I) : (x >>= f).Keeps I := by
  intro s h
  rw [run_bind]
  exact hf _ _ (hx s h)

theorem keeps_record (e : Event) : (record e : Action σ Unit).Keeps I := fun _ h => h

/-! ## Lines of a `do` block -/

/-- A first line that records nothing is done with once its answer and the state
after it are known. -/
theorem run_bind_of_run {x : Action σ α} {f : α → Action σ β} {a : α} {s s' : σ}
    (h : x.run s = ⟨a, s', []⟩) : (x >>= f).run s = (f a).run s' := by
  rw [run_bind, h]
  rfl

/-- Two blocks that begin with the same line come out the same if the rest of them
does. -/
theorem run_bind_congr {x y : Action σ α} {f g : α → Action σ β} {s : σ}
    (hx : x.run s = y.run s)
    (hrest : (f (x.run s).answer).run (x.run s).state = (g (x.run s).answer).run (x.run s).state) :
    (x >>= f).run s = (y >>= g).run s := by
  rw [run_bind, run_bind, hrest, ← hx]

/-- A last line that only words the answer. -/
theorem run_bind_pure (x : Action σ α) (f : α → β) (s : σ) :
    (x >>= fun a => pure (f a)).run s
      = ⟨f (x.run s).answer, (x.run s).state, (x.run s).events⟩ := by
  rw [run_bind]
  simp only [run_pure, List.append_nil]

end Action

namespace Realm

variable {W α : Type}

/-- What is said about the registry alone, no action of the world can change. -/
theorem keeps_onWorld {J : Registry → Prop} (x : Action W α) :
    (onWorld x).Keeps fun realm => J realm.registry := fun _ h => h

end Realm

end InstancedZones
