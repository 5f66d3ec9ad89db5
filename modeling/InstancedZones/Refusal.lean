import InstancedZones.World.Basic

/-!
# Refusals

Why an operation on instances declines. A refusal is an answer and not a
fault: whatever the operation had begun is undone before the answer is given.
-/

namespace InstancedZones

/-- Why an operation declined. -/
inductive Refusal
  /-- The player is unknown or not connected. -/
  | invalidPlayer (player : PlayerId)
  /-- No open instance has this identity. -/
  | notFound (id : InstanceId)
  /-- The player has not reached the level of the instance. -/
  | levelTooLow (player : PlayerId) (level required : UInt32)
  /-- The player is in a different open instance. -/
  | alreadyBound (player : PlayerId) (current : InstanceId)
  /-- The map template could not become part of the world. -/
  | mapLoad (template : String) (cause : MergeError)
  /-- The world would not move the player. -/
  | relocation (outcome : Relocation)
deriving DecidableEq, Repr

/-- The broad kinds of refusals. -/
inductive RefusalKind
  /-- The request names nobody who could be meant. -/
  | validation
  /-- What the request names does not exist. -/
  | notFound
  /-- The player may not do this. -/
  | eligibility
  /-- Something that is needed is missing. -/
  | resource
  /-- The world declined. -/
  | engine
deriving DecidableEq, Repr

namespace Refusal

/-- The wording of the refusal. -/
def message : Refusal → String
  | .invalidPlayer _ => "invalid player"
  | .notFound _ => "instance not found"
  | .levelTooLow _ _ required => s!"requires level {required}"
  | .alreadyBound _ _ => "already bound to a different instance"
  | .mapLoad template cause => s!"failed to load map template {template}: {cause.message}"
  | .relocation outcome => outcome.message

/-- The wording of the refusal, and of the errors that led to it. -/
def chain (r : Refusal) : List String :=
  match r with
  | .mapLoad _ cause => r.message :: cause.chain
  | _ => [r.message]

/-- The kind of the refusal. -/
def kind : Refusal → RefusalKind
  | .invalidPlayer _ => .validation
  | .notFound _ => .notFound
  | .levelTooLow _ _ _ => .eligibility
  | .alreadyBound _ _ => .eligibility
  | .mapLoad _ _ => .resource
  | .relocation _ => .engine

/-- The player it is about, if it is about one. -/
def player? : Refusal → Option PlayerId
  | .invalidPlayer player => some player
  | .levelTooLow player _ _ => some player
  | .alreadyBound player _ => some player
  | _ => none

end Refusal

end InstancedZones
