import InstancedZones.Path
import InstancedZones.Refusal
import InstancedZones.Settings.Basic

/-!
# Map templates

Before players can enter an instance, its map template has to be part of the
world. A template is dealt with once: merged if there is a file for it, and
otherwise taken to be the world as it is. The cache remembers the file names
that have been dealt with. A merge that fails is not remembered, so the next
request tries again.
-/

namespace InstancedZones

/-- How a template came to be ready. -/
inductive TemplateStatus
  /-- No template was asked for. -/
  | noTemplate
  /-- It was dealt with before. -/
  | alreadyLoaded
  /-- There is no file for it. -/
  | assumedBaseWorld
  /-- Its file was merged. -/
  | merged
deriving DecidableEq, Repr

/-- The name of a status. -/
def TemplateStatus.label : TemplateStatus → String
  | .noTemplate => "NoTemplate"
  | .alreadyLoaded => "AlreadyLoaded"
  | .assumedBaseWorld => "AssumedBaseWorld"
  | .merged => "Merged"

/-- The templates that have been dealt with. -/
structure TemplateCache where
  /-- The directory of the template files. -/
  mapsDir : String
  /-- The extension of the template files, without the point. -/
  extension : String
  /-- The file names dealt with. -/
  resolved : Std.ExtTreeSet String
deriving DecidableEq

namespace TemplateCache

/-- A cache that has seen no template. Points in front of the extension do not
count. -/
def ofSettings (s : TemplateSettings) : TemplateCache where
  mapsDir := s.mapsDir
  extension := String.ofList (s.mapExtension.toList.dropWhile (· == '.'))
  resolved := ∅

/-- The file name of a template: the name itself if it has the extension, in
any case of its letters, and otherwise the name with the extension. -/
def fileName (c : TemplateCache) (name : String) : String :=
  let hasExtension :=
    (Path.extension? name).any fun found => Path.sameIgnoringCase found c.extension.toList
  if hasExtension || c.extension.isEmpty then name else name ++ "." ++ c.extension

/-- The path a template is looked for at. -/
def path (c : TemplateCache) (name : String) : String := Path.join c.mapsDir (c.fileName name)

/-- Whether there is nothing left to do for a template. -/
def isResolved (c : TemplateCache) (name : String) : Bool :=
  name.isEmpty || c.resolved.contains (c.fileName name)

/-- The number of templates dealt with. -/
def count (c : TemplateCache) : Nat := c.resolved.size

/-- The cache once a template has been dealt with. -/
def resolve (c : TemplateCache) (name : String) : TemplateCache :=
  { c with resolved := c.resolved.insert (c.fileName name) }

variable {W : Type} [TemplateSource W]

/-- Makes a template ready: the answer, and the cache afterwards. -/
def ensureLoaded (c : TemplateCache) (name : String) :
    Action W (Except Refusal TemplateStatus × TemplateCache) := do
  if name.isEmpty then return (.ok .noTemplate, c)
  if c.resolved.contains (c.fileName name) then return (.ok .alreadyLoaded, c)
  let path := c.path name
  if !(← TemplateSource.templateExists path) then
    Action.record (.debug "no template file, assuming base world"
      [("template", name), ("path", path)])
    return (.ok .assumedBaseWorld, c.resolve name)
  match ← TemplateSource.mergeTemplate path with
  | .error cause => return (.error (.mapLoad name cause), c)
  | .ok () =>
    Action.record (.info "map template merged" [("template", name), ("path", path)])
    return (.ok .merged, c.resolve name)

end TemplateCache

end InstancedZones
