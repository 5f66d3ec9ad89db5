import InstancedZones.FileFault
import InstancedZones.Settings.Reading
import InstancedZones.Settings.Writing
import InstancedZones.Toml.Library

/-!
# Settings as a document

Settings are kept in a file as a document, which a library writes and reads.
Reading can fail for the file, which may be missing or not be a text, or for what
it says; writing fails where the library does.
-/

namespace InstancedZones

/-- Why settings cannot be read or written. -/
inductive SettingsError
  /-- The file cannot be read. -/
  | unreadable (path reason : String)
  /-- The file does not hold settings. -/
  | malformed (path : String)
  /-- The settings cannot be written. -/
  | unwritable (reason : String)
deriving DecidableEq, Repr

namespace SettingsError

/-- The wording of the error. -/
def message : SettingsError → String
  | .unreadable path reason => s!"failed to read config file '{path}': {reason}"
  | .malformed path => s!"failed to parse config file '{path}'"
  | .unwritable reason => s!"failed to serialize config: {reason}"

/-- The wording of the error, and of the one that caused it if there is one. -/
def chain : SettingsError → List String
  | .unreadable path reason => [(unreadable path reason).message, reason]
  | .malformed path => [(malformed path).message]
  | .unwritable reason => [(unwritable reason).message, reason]

end SettingsError

namespace Settings

variable (library : Toml.Library)

/-- The settings that a text says. -/
def ofText? (text : String) : Option Settings := library.read text >>= Settings.ofDatum? .document

/-- What a file holds, when one tries to read it. -/
inductive FileContent
  /-- There is no file to be found. -/
  | missing
  /-- The bytes of the file. -/
  | bytes (content : ByteArray)

/-- The settings of a file. -/
def load (path : String) (file : FileContent) : Except SettingsError Settings :=
  match file with
  | .missing => .error (.unreadable path (FileFault.ofPath path).message)
  | .bytes content =>
    match String.fromUTF8? content with
    | none => .error (.unreadable path FileFault.notText.message)
    | some text =>
      match ofText? library text with
      | none => .error (.malformed path)
      | some settings => .ok settings

/-- The text that says the settings. -/
def toText (s : Settings) : Except SettingsError String :=
  (library.write (.record s.pairs)).mapError .unwritable

end Settings

end InstancedZones
