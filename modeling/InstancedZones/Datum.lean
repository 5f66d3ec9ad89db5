import InstancedZones.Decimal.Binary

/-!
# Data

What a text of settings says before anyone asks what it means: truth values,
numbers, texts, moments in time, lists, and records of named data. Two
notations are read into it. They agree on all but the two points that a
`Dialect` states.

A record can be given by names or as a list of its members in their fixed
order. A moment counts as a record none of whose members has a name that is
asked for.
-/

namespace InstancedZones

/-- A piece of data. -/
inductive Datum
  /-- Nothing. -/
  | null
  /-- A truth value. -/
  | truth (value : Bool)
  /-- A whole number. -/
  | whole (value : Int)
  /-- A number written with a fraction or an exponent. -/
  | real (value : Binary64)
  /-- A text. -/
  | text (value : String)
  /-- A date, a time of day, or both. -/
  | moment
  /-- Data in order. -/
  | list (items : List Datum)
  /-- Data by name. -/
  | record (entries : List (String × Datum))
deriving Inhabited

/-- The points on which notations differ. -/
structure Dialect where
  /-- Whether a record given as a list may have members past the last one. -/
  allowsSurplus : Bool
  /-- What stands for the content of a choice that has none. -/
  isUnit : Datum → Bool

namespace Dialect

/-- A record has no surplus members, and the content of an empty choice is null. -/
def exchange : Dialect where
  allowsSurplus := false
  isUnit
    | .null => true
    | _ => false

/-- Surplus members are passed over, and the content of an empty choice is an
empty list or record. -/
def document : Dialect where
  allowsSurplus := true
  isUnit
    | .list [] => true
    | .record [] => true
    | _ => false

end Dialect

namespace Datum

/-- A truth value. -/
def truth? : Datum → Option Bool
  | .truth value => some value
  | _ => none

/-- A text. -/
def text? : Datum → Option String
  | .text value => some value
  | _ => none

/-- A whole number from zero up to, but not including, `bound`. -/
def below? (bound : Nat) : Datum → Option Nat
  | .whole value => if 0 ≤ value ∧ value < bound then some value.toNat else none
  | _ => none

/-- A whole number of eight bits. -/
def uint8? (d : Datum) : Option UInt8 := (d.below? 256).map UInt8.ofNat

/-- A whole number of 16 bits. -/
def uint16? (d : Datum) : Option UInt16 := (d.below? 65536).map UInt16.ofNat

/-- A whole number of 32 bits. -/
def uint32? (d : Datum) : Option UInt32 := (d.below? 4294967296).map UInt32.ofNat

/-- A whole number of 64 bits. -/
def uint64? (d : Datum) : Option UInt64 := (d.below? 18446744073709551616).map UInt64.ofNat

/-- Any number, rounded to 32 bits. -/
def binary32? : Datum → Option Binary32
  | .whole value => some (.ofInt value)
  | .real value => some (.ofBinary64 value)
  | _ => none

/-- A list whose items can all be read. -/
def list? {α : Type} (read : Datum → Option α) : Datum → Option (List α)
  | .list items => items.mapM read
  | _ => none

/-- One of several names, given as a text or as a record whose one entry has
no content. -/
def choice? {α : Type} (dialect : Dialect) (options : List (String × α)) : Datum → Option α
  | .text name => options.lookup name
  | .record [(name, content)] => if dialect.isUnit content then options.lookup name else none
  | _ => none

/-- The members of a record. -/
inductive Members
  /-- In their fixed order. -/
  | ordered (items : List Datum)
  /-- By name. -/
  | named (entries : List (String × Datum))

/-- The members of a record that has `count` of them. -/
def members? (dialect : Dialect) (count : Nat) : Datum → Option Members
  | .list items =>
    if !dialect.allowsSurplus && count < items.length then none else some (.ordered items)
  | .record entries => some (.named entries)
  | .moment => some (.named [])
  | _ => none

namespace Members

/-- The member with a place in the order and a name. -/
def get? (m : Members) (place : Nat) (name : String) : Option Datum :=
  match m with
  | .ordered items => items[place]?
  | .named entries => entries.lookup name

/-- A member that has to be there. -/
def required {α : Type} (m : Members) (place : Nat) (name : String) (read : Datum → Option α) :
    Option α :=
  match m.get? place name with
  | none => none
  | some d => read d

/-- A member that may be left out. -/
def optional {α : Type} (m : Members) (place : Nat) (name : String) (read : Datum → Option α)
    (default : α) : Option α :=
  match m.get? place name with
  | none => some default
  | some d => read d

end Members

end Datum

end InstancedZones
