import InstancedZones.Proofs.Keeping
import InstancedZones.Proofs.Collections
import InstancedZones.World.Memory

/-!
# The requests of a world in memory

What each request answers and what it changes. Four things can happen to the
record of a player, a move, a note, a notice and a connection made or lost, and
each changes one field of one record; so what is noted of the players' instances
changes by notes only.
-/

namespace InstancedZones.MemoryWorld

variable {w : MemoryWorld} {player q : PlayerId} {id : Option InstanceId} {target : Position}

/-! ## Running the requests -/

@[simp] theorem run_templateExists (path : String) :
    (TemplateSource.templateExists path : Action MemoryWorld Bool).run w
      = ⟨w.hasTemplate path, w, []⟩ := rfl

@[simp] theorem run_resolve (player : PlayerId) :
    (World.resolve player : Action MemoryWorld _).run w = ⟨w.info? player, w, []⟩ := rfl

@[simp] theorem run_partyMembers (player : PlayerId) :
    (World.partyMembers player : Action MemoryWorld _).run w = ⟨w.parties[player]?, w, []⟩ := rfl

@[simp] theorem run_setInstance (player : PlayerId) (id : Option InstanceId) :
    (World.setInstance player id : Action MemoryWorld _).run w
      = ⟨(), w.noteInstance player id, []⟩ := rfl

@[simp] theorem run_sendNotice (player : PlayerId) (text : String) :
    (World.sendNotice player text : Action MemoryWorld _).run w
      = ⟨(), w.notify player text, []⟩ := rfl

/-- A move is written down exactly if it takes place. -/
theorem run_relocate (player : PlayerId) (target : Position) (mustBeOnline : Bool) :
    (World.relocate player target mustBeOnline : Action MemoryWorld _).run w
      = ⟨(w.moveOutcome player target mustBeOnline).1,
          if (w.moveOutcome player target mustBeOnline).2 then w.move player target else w,
          []⟩ := by
  rcases hmove : w.moveOutcome player target mustBeOnline with ⟨outcome, moves⟩
  cases moves <;> simp [World.relocate, hmove]

/-! ## The records of the players -/

theorem getElem?_noteInstance :
    (w.noteInstance player id).players[q]?
      = if player = q then w.players[q]?.map fun record => { record with instance? := id }
        else w.players[q]? :=
  Table.getElem?_modify ..

theorem getElem?_move :
    (w.move player target).players[q]?
      = if player = q then w.players[q]?.map fun record => { record with position := target }
        else w.players[q]? :=
  Table.getElem?_modify ..

theorem getElem?_notify {text : String} :
    (w.notify player text).players[q]?
      = if player = q then
          w.players[q]?.map fun record => { record with notices := record.notices ++ [text] }
        else w.players[q]? :=
  Table.getElem?_modify ..

theorem getElem?_setOnline {online : Bool} :
    (w.setOnline player online).players[q]?
      = if player = q then w.players[q]?.map fun record => { record with online }
        else w.players[q]? :=
  Table.getElem?_modify ..

theorem getElem?_addPlayer {level : UInt32} {home : Position} :
    (w.addPlayer player level home).players[q]?
      = if player = q then some (.fresh level home) else w.players[q]? :=
  Table.getElem?_insert ..

/-- **Who can be seen** has a record and is connected, and the record says what is seen. -/
theorem info?_eq_some_iff {info : PlayerInfo} :
    w.info? player = some info
      ↔ ∃ record, w.players[player]? = some record ∧ record.online = true ∧
          info = ⟨record.level, record.instance?, record.home⟩ := by
  rw [info?]
  cases w.players[player]? with
  | none => simp
  | some record => simp [eq_comm (a := info)]

/-- **Who cannot be seen** has no record or is not connected. -/
theorem info?_eq_none_iff :
    w.info? player = none
      ↔ ∀ record, w.players[player]? = some record → record.online = false := by
  rw [info?]
  cases w.players[player]? with
  | none => simp
  | some record => simp

/-- A world is what it is without the moves made, and the moves. -/
theorem ext_relocations {w' : MemoryWorld}
    (h : { w' with relocations := [] } = ({ w with relocations := [] } : MemoryWorld))
    (hmoves : w'.relocations = w.relocations) : w' = w := by
  have hsplit : ∀ w : MemoryWorld, w = { ({ w with relocations := [] } : MemoryWorld) with
      relocations := w.relocations } := fun _ => rfl
  rw [hsplit w', hsplit w, h, hmoves]

/-! ## What is noted of the players' instances -/

/-- **A note is found again** for the player it is about, if there is such a
player, and for nobody else. -/
theorem instanceOf_noteInstance :
    (w.noteInstance player id).instanceOf q
      = if player = q then (w.players[q]?.bind fun _ => id) else w.instanceOf q := by
  rw [instanceOf, getElem?_noteInstance]
  split
  · cases w.players[q]? <;> rfl
  · rfl

/-- A note that is taken back is gone, whether or not there is such a player. -/
theorem instanceOf_noteInstance_none :
    (w.noteInstance player none).instanceOf q = if player = q then none else w.instanceOf q := by
  rw [instanceOf_noteInstance]
  cases w.players[q]? <;> rfl

/-- A change of one record that leaves the note alone leaves all notes alone. -/
theorem instanceOf_eq_of_modify {w' : MemoryWorld} {f : PlayerRecord → PlayerRecord}
    (h : w'.players[q]? = if player = q then w.players[q]?.map f else w.players[q]?)
    (hf : ∀ record, (f record).instance? = record.instance?) :
    w'.instanceOf q = w.instanceOf q := by
  rw [instanceOf, instanceOf, h]
  split
  · cases w.players[q]? with
    | none => rfl
    | some record => exact hf record
  · rfl

@[simp] theorem instanceOf_move : (w.move player target).instanceOf q = w.instanceOf q :=
  instanceOf_eq_of_modify getElem?_move fun _ => rfl

@[simp] theorem instanceOf_notify {text : String} :
    (w.notify player text).instanceOf q = w.instanceOf q :=
  instanceOf_eq_of_modify getElem?_notify fun _ => rfl

@[simp] theorem instanceOf_setOnline {online : Bool} :
    (w.setOnline player online).instanceOf q = w.instanceOf q :=
  instanceOf_eq_of_modify getElem?_setOnline fun _ => rfl

/-- A player who is new has no note. -/
theorem instanceOf_addPlayer (hnew : player ∉ w.players) {level : UInt32} {home : Position} :
    (w.addPlayer player level home).instanceOf q = w.instanceOf q := by
  rw [instanceOf, instanceOf, getElem?_addPlayer]
  split
  · next h =>
    subst h
    rw [Std.ExtTreeMap.getElem?_eq_none hnew]
    rfl
  · rfl

/-- **Moving a player keeps every note.** -/
theorem keeps_notes_relocate (notes : PlayerId → Option InstanceId) (player : PlayerId)
    (target : Position) (mustBeOnline : Bool) :
    (World.relocate player target mustBeOnline : Action MemoryWorld _).Keeps
      fun w => ∀ q, w.instanceOf q = notes q := by
  intro w h q
  rw [run_relocate]
  split
  · rw [instanceOf_move]
    exact h q
  · exact h q

/-! ## The world going on by itself -/

/-- **What happens in the world apart from the calls**, without anyone writing
notes: players appear and come and go, parties are formed, template files are
added, positions are barred and opened, players are moved and told things. -/
inductive Change : MemoryWorld → MemoryWorld → Prop
  /-- A player appears for the first time. -/
  | addPlayer {w : MemoryWorld} {player : PlayerId} (level : UInt32) (home : Position)
      (new : player ∉ w.players) : Change w (w.addPlayer player level home)
  /-- A party is formed. -/
  | formParty {w : MemoryWorld} (leader : PlayerId) (members : List PlayerId) :
      Change w (w.formParty leader members)
  /-- A player connects or disconnects. -/
  | setOnline {w : MemoryWorld} (player : PlayerId) (online : Bool) :
      Change w (w.setOnline player online)
  /-- A template file is added. -/
  | addTemplate {w : MemoryWorld} (path : String) : Change w (w.addTemplate path)
  /-- A template file that cannot be merged is added. -/
  | addBrokenTemplate {w : MemoryWorld} (path : String) : Change w (w.addBrokenTemplate path)
  /-- A position is barred. -/
  | block {w : MemoryWorld} (position : Position) (outcome : Relocation) :
      Change w (w.block position outcome)
  /-- A position is opened again. -/
  | unblock {w : MemoryWorld} (position : Position) : Change w (w.unblock position)
  /-- Someone tries to move a player. -/
  | relocate {w : MemoryWorld} (player : PlayerId) (target : Position) (mustBeOnline : Bool) :
      Change w ((World.relocate player target mustBeOnline).run w).state
  /-- A player is told something. -/
  | sendNotice {w : MemoryWorld} (player : PlayerId) (text : String) :
      Change w ((World.sendNotice player text).run w).state

/-- **The world going on keeps every note.** -/
theorem Change.instanceOf_eq {w w' : MemoryWorld} (h : Change w w') (q : PlayerId) :
    w'.instanceOf q = w.instanceOf q := by
  cases h with
  | addPlayer level home new => exact instanceOf_addPlayer new
  | setOnline player online => exact instanceOf_setOnline
  | relocate player target mustBeOnline =>
    exact keeps_notes_relocate w.instanceOf player target mustBeOnline w (fun _ => rfl) q
  | sendNotice player text => exact instanceOf_notify
  | formParty | addTemplate | addBrokenTemplate | block | unblock => rfl

/-! ## A world to look at -/

/-- Three players who live in one place, the first the leader of a party. -/
def trio : MemoryWorld :=
  let home : Position := ⟨32, 32, 7⟩
  (((empty.addPlayer ⟨1⟩ 30 home).addPlayer ⟨2⟩ 30 home).addPlayer ⟨3⟩ 30 home).formParty
    ⟨1⟩ [⟨2⟩, ⟨3⟩]

theorem instanceOf_trio (q : PlayerId) : trio.instanceOf q = none := by
  have hparty : ∀ (w : MemoryWorld) leader members,
      (w.formParty leader members).instanceOf q = w.instanceOf q := fun _ _ _ => rfl
  unfold trio
  rw [hparty, instanceOf_addPlayer (by decide +kernel), instanceOf_addPlayer (by decide +kernel),
    instanceOf_addPlayer (by decide +kernel)]
  simp [instanceOf, empty]

end InstancedZones.MemoryWorld
