import InstancedZones.Instance
import InstancedZones.Template

/-!
# The registry

All open instances by their identity, and for each player in one of them the
instance the player is in. Membership is thus kept on both sides: a player is
indexed under an instance exactly if the instance lists the player. The
operations of the modules beside this one keep the two sides together.
-/

namespace InstancedZones

/-- The open instances and who is in them. -/
structure Registry where
  /-- The open instances. -/
  instances : Std.ExtTreeMap InstanceId Instance
  /-- The instance each player is in. -/
  members : Std.ExtTreeMap PlayerId InstanceId
  /-- The map templates dealt with. -/
  templates : TemplateCache
  /-- Where the search for the next identity starts. -/
  nextId : InstanceId
deriving DecidableEq

namespace Registry

/-- A registry without instances. -/
def ofSettings (s : TemplateSettings) : Registry where
  instances := ∅
  members := ∅
  templates := .ofSettings s
  nextId := .first

instance : Inhabited Registry := ⟨ofSettings .usual⟩

/-! ## Looking things up -/

/-- The instance a player is in. -/
def instanceOf (r : Registry) (player : PlayerId) : Option InstanceId := r.members[player]?

/-- Whether an open instance lists a player. -/
def isPlayerBound (r : Registry) (player : PlayerId) (id : InstanceId) : Bool :=
  match r.instances[id]? with
  | none => false
  | some i => i.players.contains player

/-- The identities of the open instances, in order. -/
def ids (r : Registry) : List InstanceId := r.instances.keys

/-- What others are told about the open instances, in order. -/
def summaries (r : Registry) : List InstanceSummary := r.instances.values.map Instance.summary

/-- The open instances whose end has come, in order. -/
def expiredAt (r : Registry) (now : Timestamp) : List InstanceId :=
  (r.instances.values.filter (·.isExpired now)).map Instance.id

/-- Whether some open instance watches a boss. -/
def watches (r : Registry) (boss : String) : Bool :=
  r.instances.values.any (·.bosses.contains boss)

/-- What the death of a boss leads to: it is noted whether anyone watches, and
no instance is held to be the one it died in. -/
def bossDeath (r : Registry) (boss : String) : List Event × Option InstanceId :=
  ([.debug "boss death observed, no owning-instance resolution"
      [("boss", boss), ("tracked", s!"{r.watches boss}")]], none)

/-- A registry in one line. -/
def text (r : Registry) : String :=
  "InstanceManager \x7b instances: " ++ s!"{r.instances.size}, members: {r.members.size}" ++
    s!", next_id: InstanceId({r.nextId.number}) \x7d"

/-! ## Changing membership -/

/-- Lists a player in an instance, and indexes the player under it. -/
def enroll (r : Registry) (player : PlayerId) (id : InstanceId) : Registry :=
  { r with
    instances := r.instances.modify id fun i => { i with players := i.players.insert player }
    members := r.members.insert player id }

/-- Takes a player out of an instance, and out of the index. -/
def withdraw (r : Registry) (player : PlayerId) (id : InstanceId) : Registry :=
  { r with
    instances := r.instances.modify id fun i => { i with players := i.players.erase player }
    members := r.members.erase player }

/-! ## Handing out identities -/

/-- The first identity from `id` on that no open instance has, looking at no
more than `fuel` identities after it. -/
def firstFree (r : Registry) : Nat → InstanceId → InstanceId
  | 0, id => id
  | fuel + 1, id => if r.instances.contains id then r.firstFree fuel id.next else id

/-- The identity the next instance will have. Among one more identity than
there are open instances, one is free. -/
def freeId (r : Registry) : InstanceId := r.firstFree r.instances.size r.nextId

/-- Adds an instance that has the free identity. -/
def add (r : Registry) (i : Instance) : Registry :=
  { r with instances := r.instances.insert i.id i, nextId := i.id.next }

/-- Takes an instance out of the registry. -/
def remove (r : Registry) (id : InstanceId) : Registry :=
  { r with instances := r.instances.erase id }

end Registry

/-- The registry and the world it acts on. -/
structure Realm (W : Type) where
  /-- The registry. -/
  registry : Registry
  /-- The world. -/
  world : W

namespace Realm

variable {W α : Type}

/-- Runs an action of the world. -/
def onWorld (x : Action W α) : Action (Realm W) α :=
  x.within Realm.world fun w realm => { realm with world := w }

/-- The registry. -/
def getRegistry : Action (Realm W) Registry := do return (← get).registry

/-- Changes the registry. -/
def modifyRegistry (f : Registry → Registry) : Action (Realm W) Unit :=
  modify fun realm => { realm with registry := f realm.registry }

@[simp] theorem run_onWorld (x : Action W α) (realm : Realm W) :
    (onWorld x).run realm
      = ⟨(x.run realm.world).answer, { realm with world := (x.run realm.world).state },
          (x.run realm.world).events⟩ := rfl

@[simp] theorem run_getRegistry (realm : Realm W) :
    (getRegistry : Action (Realm W) Registry).run realm = ⟨realm.registry, realm, []⟩ := rfl

@[simp] theorem run_modifyRegistry (f : Registry → Registry) (realm : Realm W) :
    (modifyRegistry f).run realm = ⟨(), { realm with registry := f realm.registry }, []⟩ := rfl

end Realm

end InstancedZones
