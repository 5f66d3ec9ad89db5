import InstancedZones.LogFilter.Field

/-!
# Directives

A directive shows the events of a level and above: of everything, or of one
target, or within spans of a name or with a field. It is a level, or names a
target, spans in square brackets or both, which an equals sign and a level may
follow.

What kind of text a directive is, and where its parts lie, is found without
the blanks at its ends. The parts themselves are cut from the whole text, at
the places counted without the blanks, so blanks in front of a directive shift
its parts. A cut can thus fall into the middle of a character.
-/

namespace InstancedZones

/-- Which events are shown. -/
structure Directive where
  /-- The one target whose events are shown, if there is one. -/
  target? : Option String
  /-- The name of the spans in which events are shown, if there is one. -/
  span? : Option String
  /-- The field that those spans have, if there is one. -/
  field? : Option Field
  /-- The least level that is shown. -/
  threshold : Threshold
deriving DecidableEq, Repr

/-- Why a text is no directive. -/
inductive DirectiveFault
  /-- It is not of the form of a directive. -/
  | malformed
  /-- One of its parts would begin or end inside a character. -/
  | brokenCharacter
deriving DecidableEq, Repr

namespace Directive

/-- The directive that shows a level and above of everything. -/
def ofThreshold (threshold : Threshold) : Directive := ⟨none, none, none, threshold⟩

/-! ## Parts of a text -/

/-- Cuts a text after so many bytes, if that is between two characters. -/
def cut : Nat → List Char → Except DirectiveFault (List Char × List Char)
  | 0, text => .ok ([], text)
  | _ + 1, [] => .error .brokenCharacter
  | n + 1, c :: text =>
    if c.utf8Size ≤ n + 1 then
      (cut (n + 1 - c.utf8Size) text).map fun parts => (c :: parts.1, parts.2)
    else .error .brokenCharacter

/-- The part of a text from one place to another, in bytes. -/
def slice (start stop : Nat) (text : List Char) : Except DirectiveFault (List Char) := do
  let (_, rest) ← cut start text
  let (part, _) ← cut (stop - start) rest
  return part

/-! ## Reading -/

/-- Where a reader stands in a directive. A part that has begun is known by the
place of its start. -/
inductive Stage
  /-- At the start. -/
  | start
  /-- Within a level or a target. -/
  | word
  /-- Within the name of a span. -/
  | span (start : Nat)
  /-- Within a field. -/
  | field (start : Nat)
  /-- After the brace that closes a field. -/
  | fieldEnd
  /-- After the bracket that closes a span. -/
  | spanEnd
  /-- Within the level at the end. -/
  | level (start : Nat)
deriving DecidableEq, Repr

/-- Whether a directive can start with a character, other than with the bracket
of a span. -/
def startsWord (c : Char) : Bool :=
  c == '-' || c == ':' || c == '_' || Text.isAlphanumeric c

/-- Takes the character `c` at a place: where the reader stands then, and what
is known of the directive. -/
def step (whole : List Char) (place : Nat) (c : Char) (stage : Stage) (d : Directive) :
    Except DirectiveFault (Stage × Directive) := do
  match stage with
  | .start =>
    if c = '[' then return (.span (place + 1), d)
    else if startsWord c then return (.word, d)
    else throw .malformed
  | .word =>
    if c = '=' ∨ c = '[' then
      let target := String.ofList (← slice 0 place whole)
      return (if c = '=' then .level (place + 1) else .span (place + 1),
        { d with target? := some target })
    else return (stage, d)
  | .span start =>
    if c = ']' then
      return (.spanEnd, { d with span? := some (String.ofList (← slice start place whole)) })
    else if c = '\x7b' then
      let name ← slice start place whole
      let span? := if name.isEmpty then none else some (String.ofList name)
      return (.field (place + 1), { d with span? })
    else return (stage, d)
  | .field start =>
    if c = '\x7d' then
      let text ← slice start place whole
      match if text.isEmpty then none else Field.ofText? text with
      | some field => return (.fieldEnd, { d with field? := some field })
      | none => throw .malformed
    else return (stage, d)
  | .fieldEnd => if c = ']' then return (.spanEnd, d) else throw .malformed
  | .spanEnd => if c = '=' then return (.level (place + 1), d) else throw .malformed
  | .level _ => return (stage, d)

/-- Takes all characters from a place on. -/
def steps (whole : List Char) :
    Nat → List Char → Stage → Directive → Except DirectiveFault (Stage × Directive)
  | _, [], stage, d => .ok (stage, d)
  | place, c :: rest, stage, d => do
    let (stage, d) ← step whole place c stage d
    steps whole (place + c.utf8Size) rest stage d

/-- The directive that has been read when the text ends. A word alone is a level
or a target; without a level everything is shown. -/
def finish (whole : List Char) (stage : Stage) (d : Directive) :
    Except DirectiveFault Directive := do
  match stage with
  | .word =>
    match Threshold.ofText? whole with
    | some threshold => return { d with threshold }
    | none => return { d with target? := some (String.ofList whole) }
  | .level start =>
    let (_, level) ← cut start whole
    if level.isEmpty then return d
    else
      match Threshold.ofText? level with
      | some threshold => return { d with threshold }
      | none => throw .malformed
  | .spanEnd => return d
  | _ => throw .malformed

/-- The directive that a text says. -/
def ofText (whole : List Char) : Except DirectiveFault Directive := do
  let (stage, d) ← steps whole 0 (Text.trimmed whole) .start (ofThreshold .trace)
  finish whole stage d

/-! ## Writing -/

/-- A directive as text. -/
def text (d : Directive) : String :=
  let field := d.field?.elim "" fun field => "\x7b" ++ field.text ++ "\x7d"
  let spans :=
    if d.span?.isSome || d.field?.isSome then "[" ++ d.span?.getD "" ++ field ++ "]" else ""
  let equals := if d.target?.isSome || d.span?.isSome || d.field?.isSome then "=" else ""
  d.target?.getD "" ++ spans ++ equals ++ d.threshold.keyword

/-! ## Order -/

/-- Whether events alone, without their spans, can decide on a directive: it
names no span, and no value of a field. -/
def isStatic (d : Directive) : Bool :=
  d.span?.isNone && d.field?.all fun field => field.value?.isNone

/-- Whether a directive depends on spans. -/
def isDynamic (d : Directive) : Bool := d.span?.isSome || d.field?.isSome

/-- The order of directives from the most to the least specific: longer targets
come first, then those with a span, with a field, and with its value. The
level plays no part. -/
def order (a b : Directive) : Ordering :=
  let length (d : Directive) := d.target?.elim 0 fun target => target.utf8ByteSize + 1
  let valued (d : Directive) := d.field?.any fun field => field.value?.isSome
  let field (d : Directive) := d.field?.elim "" Field.text
  (compare (length b) (length a)).then <|
  (compare b.span?.isSome a.span?.isSome).then <|
  (compare b.field?.isSome a.field?.isSome).then <|
  (compare (b.target?.getD "") (a.target?.getD "")).then <|
  (compare (b.span?.getD "") (a.span?.getD "")).then <|
  (compare (valued b) (valued a)).then <|
  compare (field b) (field a)

/-- Puts a directive in its place among others, instead of the one that it
differs from at most in its level. -/
def insert (d : Directive) : List Directive → List Directive
  | [] => [d]
  | e :: rest =>
    match order d e with
    | .lt => d :: e :: rest
    | .eq => d :: rest
    | .gt => e :: insert d rest

end Directive

end InstancedZones
