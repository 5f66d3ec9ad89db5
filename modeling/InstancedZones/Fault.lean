import InstancedZones.Service.Command
import InstancedZones.Settings.Document

/-!
# Faults

Everything that can go wrong, in one type. A fault that wraps another says what
the other says.
-/

namespace InstancedZones

/-- Anything that went wrong. -/
inductive Fault
  /-- An operation on instances declined. -/
  | refusal (cause : Refusal)
  /-- A map template could not become part of the world. -/
  | world (cause : MergeError)
  /-- The service did not do what it was asked. -/
  | service (cause : ServiceFault)
  /-- Settings could not be read or written. -/
  | settings (cause : SettingsError)
deriving DecidableEq, Repr

namespace Fault

/-- The wording of the fault, and of the errors that led to it. -/
def chain : Fault → List String
  | .refusal cause => cause.chain
  | .world cause => cause.chain
  | .service cause => cause.chain
  | .settings cause => cause.chain

end Fault

end InstancedZones
