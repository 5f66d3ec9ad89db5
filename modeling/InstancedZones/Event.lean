/-!
# Recorded events

What the operations tell an observer about themselves, apart from their
answer: a message at a level, with named fields as text.
-/

namespace InstancedZones

/-- How much an event matters. -/
inductive Level
  | trace
  | debug
  | info
  | warn
deriving DecidableEq, Repr

/-- The name of a level. -/
def Level.label : Level → String
  | trace => "TRACE"
  | debug => "DEBUG"
  | info => "INFO"
  | warn => "WARN"

/-- One recorded event. -/
structure Event where
  /-- How much it matters. -/
  level : Level
  /-- What happened. -/
  message : String
  /-- The particulars, by name. -/
  fields : List (String × String)
deriving DecidableEq, Repr

namespace Event

/-- An event of the finest level. -/
def trace (message : String) (fields : List (String × String)) : Event :=
  ⟨.trace, message, fields⟩

/-- An event for following what happens. -/
def debug (message : String) (fields : List (String × String)) : Event :=
  ⟨.debug, message, fields⟩

/-- An event of the ordinary course of things. -/
def info (message : String) (fields : List (String × String)) : Event :=
  ⟨.info, message, fields⟩

/-- An event that someone should look into. -/
def warn (message : String) (fields : List (String × String)) : Event :=
  ⟨.warn, message, fields⟩

/-- A field that is left out when there is no value for it. -/
def optional (name : String) (value : Option String) : List (String × String) :=
  match value with
  | none => []
  | some text => [(name, text)]

end Event

end InstancedZones
