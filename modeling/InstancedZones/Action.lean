import InstancedZones.Event

/-!
# Actions

An action runs on a state, gives an answer, leaves a state behind and records
events on the way. Every operation of this library that changes something is
an action, so a whole run is a function of the state it starts from, and a
statement about it is a statement about the answer, the state and the events
of a `Step`.
-/

namespace InstancedZones

/-- What one run of an action leaves behind. -/
structure Step (σ α : Type) where
  /-- What the action answered. -/
  answer : α
  /-- The state after it. -/
  state : σ
  /-- What it recorded, in order. -/
  events : List Event

/-- A computation on a state of type `σ` with an answer of type `α`. -/
def Action (σ α : Type) : Type := σ → Step σ α

namespace Action

variable {σ τ α β : Type}

/-- Runs the action from a state. -/
def run (x : Action σ α) (s : σ) : Step σ α := x s

instance : Monad (Action σ) where
  pure a := fun s => ⟨a, s, []⟩
  bind x f := fun s =>
    let first := x s
    let second := f first.answer first.state
    ⟨second.answer, second.state, first.events ++ second.events⟩

instance : MonadStateOf σ (Action σ) where
  get := fun s => ⟨s, s, []⟩
  set s := fun _ => ⟨(), s, []⟩
  modifyGet f := fun s => ⟨(f s).1, (f s).2, []⟩

/-- Records one event. -/
def record (e : Event) : Action σ Unit := fun s => ⟨(), s, [e]⟩

/-- Records several events. -/
def recordAll (es : List Event) : Action σ Unit := fun s => ⟨(), s, es⟩

/-- Runs an action on a part of a larger state: `view` picks the part out and
`put` puts the changed part back. -/
def within (view : τ → σ) (put : σ → τ → τ) (x : Action σ α) : Action τ α := fun t =>
  let inner := x (view t)
  ⟨inner.answer, put inner.state t, inner.events⟩

@[simp] theorem run_pure (a : α) (s : σ) : (pure a : Action σ α).run s = ⟨a, s, []⟩ := rfl

@[simp] theorem run_bind (x : Action σ α) (f : α → Action σ β) (s : σ) :
    (x >>= f).run s =
      ⟨((f (x.run s).answer).run (x.run s).state).answer,
        ((f (x.run s).answer).run (x.run s).state).state,
        (x.run s).events ++ ((f (x.run s).answer).run (x.run s).state).events⟩ := rfl

@[simp] theorem run_map (f : α → β) (x : Action σ α) (s : σ) :
    (f <$> x).run s = ⟨f (x.run s).answer, (x.run s).state, (x.run s).events⟩ := by
  change (⟨f (x.run s).answer, (x.run s).state, (x.run s).events ++ []⟩ : Step σ β) = _
  rw [List.append_nil]

@[simp] theorem run_get (s : σ) : (get : Action σ σ).run s = ⟨s, s, []⟩ := rfl

@[simp] theorem run_set (s s' : σ) : (set s' : Action σ PUnit).run s = ⟨(), s', []⟩ := rfl

@[simp] theorem run_modify (f : σ → σ) (s : σ) :
    (modify f : Action σ PUnit).run s = ⟨(), f s, []⟩ := rfl

@[simp] theorem run_record (e : Event) (s : σ) : (record e).run s = ⟨(), s, [e]⟩ := rfl

@[simp] theorem run_recordAll (es : List Event) (s : σ) : (recordAll es).run s = ⟨(), s, es⟩ := rfl

@[simp] theorem run_within (view : τ → σ) (put : σ → τ → τ) (x : Action σ α) (t : τ) :
    (within view put x).run t =
      ⟨(x.run (view t)).answer, put (x.run (view t)).state t, (x.run (view t)).events⟩ := rfl

instance : LawfulMonad (Action σ) := LawfulMonad.mk' _
  (fun x => by
    funext s
    change (⟨(x s).answer, (x s).state, (x s).events ++ []⟩ : Step σ _) = x s
    rw [List.append_nil])
  (fun a f => by
    funext s
    change (⟨(f a s).answer, (f a s).state, [] ++ (f a s).events⟩ : Step σ _) = f a s
    rw [List.nil_append])
  (fun x f g => by
    funext s
    simp only [bind, List.append_assoc])

end Action

end InstancedZones
