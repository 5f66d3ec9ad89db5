import InstancedZones.Toml.Document
import InstancedZones.Toml.Layout

/-!
# Libraries for documents

Settings are written and read by a library for documents. It turns data into a text, or
says why it cannot, and a text into data. Nothing else is asked of it here;
`Library.standard` does it as the format is described.
-/

namespace InstancedZones.Toml

/-- A library that writes and reads documents. -/
structure Library where
  /-- The text for a piece of data, or why there is none. -/
  write : Datum → Except String String
  /-- The data of a text, if it is a document. -/
  read : String → Option Datum

namespace Library

/-- What is said of a number that does not fit 64 bits with a sign. -/
def outOfRange : String := "out-of-range value for u64 type"

/-- What is said of data that has no layout. -/
def unsupported : String := "unsupported value"

/-- A library that goes by the format and nothing else. -/
def standard : Library where
  write d :=
    match layout? d with
    | none => .error unsupported
    | some ls =>
      if ls.any OutLine.isLong then .error outOfRange else .ok (String.ofList (writeLines ls))
  read text := ofChars? text.toList

end Library

end InstancedZones.Toml
