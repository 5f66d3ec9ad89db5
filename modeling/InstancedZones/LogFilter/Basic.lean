import InstancedZones.LogFilter.Directive

/-!
# Log filters

Which events are shown: those that some directive shows. Directives are
separated by commas. A filter is written with the directives that events alone
can decide on first, and then those that depend on spans; each kind is ordered
from the most to the least specific. A directive on a field without a value is
of both kinds.
-/

namespace InstancedZones

/-- Which events are shown. -/
structure LogFilter where
  /-- The directives, in the order in which they were given. -/
  directives : List Directive
deriving DecidableEq, Repr

namespace LogFilter

/-- The texts between commas. -/
def pieces : List Char → List (List Char)
  | [] => [[]]
  | c :: rest =>
    if c = ',' then [] :: pieces rest
    else
      match pieces rest with
      | [] => [[c]]
      | piece :: more => (c :: piece) :: more

/-- The filter that a text says. Nothing between two commas says nothing. -/
def ofText (text : String) : Except DirectiveFault LogFilter := do
  let given := (pieces text.toList).filter fun piece => !piece.isEmpty
  return ⟨← given.mapM Directive.ofText⟩

/-- The filter that is used when a text is malformed. -/
def fallback : LogFilter := ⟨[.ofThreshold .info]⟩

/-- The filter that is used for a text, if its parts can be cut out. -/
def build? (text : String) : Option LogFilter :=
  match ofText text with
  | .ok filter => some filter
  | .error .malformed => some fallback
  | .error .brokenCharacter => none

/-- Directives in their order, a later one in place of an earlier one that it
differs from at most in its level. -/
def ordered (directives : List Directive) : List Directive :=
  directives.foldl (fun kept d => d.insert kept) []

/-- A filter as text. -/
def text (f : LogFilter) : String :=
  -- directives of both kinds come after those that are only static
  let fixed := f.directives.filter fun d => d.isStatic && !d.isDynamic
  let both := f.directives.filter fun d => d.isStatic && d.isDynamic
  let written := ordered (fixed ++ both) ++ ordered (f.directives.filter Directive.isDynamic)
  ",".intercalate (written.map Directive.text)

/-- Puts a filter to use unless one is in use already: the filter in use
afterwards, and whether it is the new one. -/
def install (inUse : Option LogFilter) (f : LogFilter) : LogFilter × Bool :=
  match inUse with
  | some old => (old, false)
  | none => (f, true)

end LogFilter

end InstancedZones
