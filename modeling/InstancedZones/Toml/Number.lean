import InstancedZones.Datum
import InstancedZones.Decimal.Shortest
import InstancedZones.Toml.Quoted

/-!
# Numbers and moments

Whole numbers in four bases, which must fit 64 bits with a sign; numbers with
a fraction or an exponent; infinities and what is not a number; dates, times of
day, and dates with a time and its distance from the meridian. Single
underscores may stand between digits. Reading gives a piece of data and what
follows it.
-/

namespace InstancedZones.Toml

/-- A decimal digit. -/
def isDigit (c : Char) : Bool := '0' ≤ c && c ≤ '9'

/-- Further digits, with single underscores between them. -/
def moreDigits (isDigit : Char → Bool) : List Char → Option (List Char × List Char)
  | '_' :: c :: rest =>
    if isDigit c then (moreDigits isDigit rest).map fun (ds, after) => (c :: ds, after) else none
  | ['_'] => none
  | c :: rest =>
    if isDigit c then (moreDigits isDigit rest).map fun (ds, after) => (c :: ds, after)
    else some ([], c :: rest)
  | [] => some ([], [])

/-- One digit or more. -/
def digits (isDigit : Char → Bool) : List Char → Option (List Char × List Char)
  | c :: rest =>
    if isDigit c then (moreDigits isDigit rest).map fun (ds, after) => (c :: ds, after) else none
  | [] => none

/-- The number that digits stand for. -/
def valueOf (base : Nat) (ds : List Char) : Nat :=
  ds.foldl (fun n c => n * base + (Text.hexValue? c).getD 0) 0

/-- A whole number, if it fits 64 bits with a sign. -/
def wholeDatum? (negative : Bool) (magnitude : Nat) : Option Datum :=
  if negative then
    if magnitude ≤ 9223372036854775808 then some (.whole (-(magnitude : Int))) else none
  else if magnitude < 9223372036854775808 then some (.whole magnitude)
  else none

/-- A number with digits after the point and an exponent. A positive one must
not be too large to tell from infinity. -/
def realDatum? (negative : Bool) (ds fraction : List Char) (exponent : Int) : Option Datum :=
  let d : Decimal := ⟨valueOf 10 (ds ++ fraction), exponent - fraction.length⟩
  if !negative && d.pattern = Format.double.infinity then none
  else some (.real (.ofDecimal negative d))

/-- The sign before a number, if there is one. -/
def sign? : List Char → Option Bool × List Char
  | '+' :: rest => (some false, rest)
  | '-' :: rest => (some true, rest)
  | s => (none, s)

/-- The digits before a point: no zero comes first unless it is the only one. -/
def leadingDigits : List Char → Option (List Char × List Char)
  | '0' :: rest => some (['0'], rest)
  | s => digits isDigit s

/-- The digits of an exponent, with its sign. -/
def exponent (s : List Char) : Option (Int × List Char) :=
  let (sign, s) := sign? s
  match digits isDigit s with
  | none => none
  | some (ds, after) =>
    let n : Int := valueOf 10 ds
    some (if sign = some true then -n else n, after)

/-- What follows the digits before the point. -/
def afterDigits (negative : Bool) (ds s : List Char) : Option (Datum × List Char) :=
  let withExponent (fraction s : List Char) : Option (Datum × List Char) := do
    let (e, after) ← exponent s
    return (← realDatum? negative ds fraction e, after)
  match s with
  | '.' :: s => do
    let (fraction, s) ← digits isDigit s
    match s with
    | 'e' :: s => withExponent fraction s
    | 'E' :: s => withExponent fraction s
    | s => return (← realDatum? negative ds fraction 0, s)
  | 'e' :: s => withExponent [] s
  | 'E' :: s => withExponent [] s
  | s => do return (← wholeDatum? negative (valueOf 10 ds), s)

/-- A whole number after the mark of its base. -/
def based (base : Nat) (s : List Char) : Option (Datum × List Char) := do
  let (ds, after) ← digits (fun c => (Text.hexValue? c).any (· < base)) s
  return (← wholeDatum? false (valueOf base ds), after)

/-- A number. -/
def number : List Char → Option (Datum × List Char)
  | '0' :: 'x' :: s => based 16 s
  | '0' :: 'o' :: s => based 8 s
  | '0' :: 'b' :: s => based 2 s
  | s =>
    let (sign, s) := sign? s
    let negative := sign = some true
    match s with
    | 'i' :: 'n' :: 'f' :: s => some (.real (.infinity negative), s)
    | 'n' :: 'a' :: 'n' :: s => some (.real .nan, s)
    | s => do
      let (ds, s) ← leadingDigits s
      afterDigits negative ds s

/-! ## Moments -/

/-- A number of two digits within bounds. -/
def twoDigits (low high : Nat) : List Char → Option (Nat × List Char)
  | a :: b :: rest =>
    let n := valueOf 10 [a, b]
    if isDigit a && isDigit b && low ≤ n && n ≤ high then some (n, rest) else none
  | _ => none

/-- The number of days in a month of a year. -/
def daysIn (year month : Nat) : Nat :=
  if month = 2 then
    if year % 4 = 0 ∧ (year % 100 ≠ 0 ∨ year % 400 = 0) then 29 else 28
  else if month = 4 ∨ month = 6 ∨ month = 9 ∨ month = 11 then 30
  else 31

/-- A given character. -/
def eat (c : Char) : List Char → Option (List Char)
  | d :: rest => if d = c then some rest else none
  | [] => none

/-- A time of day whose hour has been read: the minutes, the seconds, and
perhaps a fraction of a second. -/
def afterHour (s : List Char) : Option (List Char) := do
  let s ← eat ':' s
  let (_, s) ← twoDigits 0 59 s
  let s ← eat ':' s
  let (_, s) ← twoDigits 0 60 s
  match s with
  | '.' :: c :: rest => return if isDigit c then rest.dropWhile isDigit else s
  | s => return s

/-- The distance from the meridian, if one is given. -/
def meridian : List Char → Option (List Char)
  | 'Z' :: rest => some rest
  | 'z' :: rest => some rest
  | c :: rest =>
    if c = '+' || c = '-' then do
      let (_, s) ← twoDigits 0 23 rest
      let s ← eat ':' s
      let (_, s) ← twoDigits 0 59 s
      return s
    else some (c :: rest)
  | [] => some []

/-- The time of day after a date, if one follows. -/
def timeAfterDate (s : List Char) : Option (List Char) :=
  match s with
  | c :: rest =>
    if c = 'T' || c = 't' || c = ' ' then
      match twoDigits 0 23 rest with
      | some (_, ':' :: after) => do meridian (← afterHour (':' :: after))
      | _ => some s
    else some s
  | [] => some []

/-- A date whose year has been read, with the time that may follow. -/
def afterYear (year : Nat) (s : List Char) : Option (Datum × List Char) := do
  let s ← eat '-' s
  let (month, s) ← twoDigits 1 12 s
  let s ← eat '-' s
  let (_, s) ← twoDigits 1 (daysIn year month) s
  return (.moment, ← timeAfterDate s)

/-- A number or a moment. A year and a hyphen start a date, an hour and a
colon a time of day; all else is a number. -/
def numberOrMoment (s : List Char) : Option (Datum × List Char) :=
  match s with
  | a :: b :: c :: d :: '-' :: rest =>
    if [a, b, c, d].all isDigit then afterYear (valueOf 10 [a, b, c, d]) ('-' :: rest)
    else number s
  | a :: b :: ':' :: rest =>
    if [a, b].all isDigit then do
      let (_, s) ← twoDigits 0 23 [a, b]
      guard s.isEmpty
      return (.moment, ← afterHour (':' :: rest))
    else number s
  | s => number s

end InstancedZones.Toml
