import Chainwalk.Conversion.Coordinate
import Chainwalk.Conversion.Registry
import Chainwalk.Text.Pieces

/-!
# Handlers of the residents of a server

Worlds and players are read by name, entities by number or name, places by their
coordinates, and stacks by material and count. Every resident is written in a line of
its own style.
-/

namespace Chainwalk

/-- Where the sender stands, if an entity stands for it. -/
def Sender.location? (h : Hierarchy) (realm : Realm) (sender : Option Sender) : Option Location :=
  do
    let subject ← (← sender).subject
    let e ← subject.shows? EntityRef h .entity
    return (← realm.entity? e).location

/-! ## Reading -/

/-- Reads worlds of a server by name. -/
def worldInput (s : Ref .server) : InputHandler where
  id := .shipped .world
  relevant := .world
  polymorphic := false
  convert h _ _ literal target := do
    let realm ← Act.ask id
    let names := (realm.worldsOf s).map realm.worldName
    let r ← Act.orElse (realm.world? s (Text.trim literal))
      (unreadable h literal target
        ("no world named that; loaded: " ++ ", ".intercalate names))
    return some (.world r)

/-- Reads players of a server by name. -/
def playerInput (s : Ref .server) : InputHandler where
  id := .shipped .player
  relevant := .player
  polymorphic := false
  convert h _ _ literal target := do
    let r ← Act.orElse (← Act.ask (·.player? s (Text.trim literal)))
      (unreadable h literal target "no such player online")
    return some (.player r)

/-- The entity of a server that a word stands for: the one with the number after the
    sign `#`, else the player of that name. -/
def Realm.entityNamed? (realm : Realm) (s : Ref .server) (word : String) : Option EntityRef :=
  match Text.afterFirst '#' word with
  | some number =>
    match (IntegerWidth.unsigned 32).read number with
    | .ok id => realm.entityById? s (UInt32.ofNat id.toNat)
    | .error _ => none
  | none => (realm.player? s word).map .player

/-- Reads entities of a server by number or name, as any class of entities. -/
def entityInput (s : Ref .server) : InputHandler where
  id := .shipped .entity
  relevant := .entity
  polymorphic := true
  convert h _ _ literal target := do
    let e ← Act.orElse (← Act.ask (·.entityNamed? s (Text.trim literal)))
      (unreadable h literal target "no entity with that id or name")
    let o := Object.ofEntity e
    if !h.isA o.class_ target then
      throw (unreadable h literal target ("entity is a " ++ h.name o.class_))
    return some o

/-- The world and the three coordinates of a place. The world may be left out if the
    sender stands in one or the server has one. -/
def splitPosition (h : Hierarchy) (realm : Realm) (s : Ref .server) (here : Option Location)
    (target : Class) (literal : String) : Except Fault (Ref .world × String × String × String) :=
  let unknown := unreadable h literal target "unknown world"
  match (Text.cut ',' literal).map Text.trim with
  | [x, y, z] =>
    let there := (here.map Location.world).filter fun r => (realm.worlds.get? r).isSome
    match there.or (realm.defaultWorld? s) with
    | some r => .ok (r, x, y, z)
    | none => .error unknown
  | [name, x, y, z] =>
    match realm.world? s name with
    | some r => .ok (r, x, y, z)
    | none => .error unknown
  | _ => .error (unreadable h literal target "expected [world,]x,y,z")

/-- Three coordinates resolved against a place, or against `zero` if none of them needs
    one. -/
def resolvePosition {α : Type} (add : α → α → α) (zero : α) (base : Option (α × α × α))
    (needs : Fault) (x y z : Coordinate α) : Except Fault (α × α × α) :=
  match base with
  | some (bx, by_, bz) => .ok (x.resolve add bx, y.resolve add by_, z.resolve add bz)
  | none =>
    if x.isRelative || y.isRelative || z.isRelative then .error needs
    else .ok (x.resolve add zero, y.resolve add zero, z.resolve add zero)

/-- The fault of an offset without a place to start from. -/
def needsSender (h : Hierarchy) (target : Class) (literal : String) : Fault :=
  unreadable h literal target "relative coordinates need a sender in the world"

/-- The location that a literal stands for. -/
def readLocation (h : Hierarchy) (realm : Realm) (s : Ref .server) (sender : Option Sender)
    (target : Class) (literal : String) : Except Fault Location := do
  let here := Sender.location? h realm sender
  let (r, x, y, z) ← splitPosition h realm s here target literal
  let cx ← Coordinate.readDouble h target x
  let cy ← Coordinate.readDouble h target y
  let cz ← Coordinate.readDouble h target z
  let (x, y, z) ← resolvePosition (· + ·) 0 (here.map fun l => (l.x, l.y, l.z))
    (needsSender h target literal) cx cy cz
  return ⟨r, x, y, z⟩

/-- The block that a literal stands for. -/
def readBlock (h : Hierarchy) (realm : Realm) (s : Ref .server) (sender : Option Sender)
    (target : Class) (literal : String) : Except Fault Block := do
  let here := Sender.location? h realm sender
  let (r, x, y, z) ← splitPosition h realm s here target literal
  let cx ← Coordinate.readInt h target x
  let cy ← Coordinate.readInt h target y
  let cz ← Coordinate.readInt h target z
  let (x, y, z) ← resolvePosition saturatingAdd 0
    (here.map fun l => (l.blockPos.x, l.blockPos.y, l.blockPos.z))
    (needsSender h target literal) cx cy cz
  return ⟨r, x, y, z⟩

/-- Reads locations by a world and coordinates. -/
def locationInput (s : Ref .server) : InputHandler where
  id := .shipped .location
  relevant := .location
  polymorphic := false
  convert h sender _ literal target := do
    let realm ← Act.ask id
    let l ← Act.ofExcept (readLocation h realm s sender target literal)
    Act.new (.location l)

/-- Reads blocks by a world and coordinates. -/
def blockInput (s : Ref .server) : InputHandler where
  id := .shipped .block
  relevant := .block
  polymorphic := false
  convert h sender _ literal target := do
    let realm ← Act.ask id
    let b ← Act.ofExcept (readBlock h realm s sender target literal)
    Act.new (.block b)

/-- The name of the material and the count in a literal for a stack. -/
def splitStack (h : Hierarchy) (target : Class) (literal : String) :
    Except Fault (String × UInt8) :=
  match Text.cutOnce ':' literal with
  | none => .ok (literal, 1)
  | some (name, count) =>
    match (IntegerWidth.unsigned 8).read (Text.trim count) with
    | .ok n =>
      if 0 < n then .ok (name, UInt8.ofNat n.toNat)
      else .error (unreadable h literal target "count must be 1..=255")
    | .error _ => .error (unreadable h literal target "count must be 1..=255")

/-- Reads stacks by material and count. The material goes back through the registry. -/
def itemStackInput : InputHandler where
  id := .shipped .itemStack
  relevant := .itemStack
  polymorphic := false
  convert h _ nested literal target := do
    let (name, count) ← Act.ofExcept (splitStack h target literal)
    let o ← Act.orElse (← nested .material (Text.trim name))
      (unreadable h literal target "material must not be null")
    let m ← Act.orElse (o.shows? Material h .material)
      (unreadable h literal target "not a material")
    let r ← Act.realm (Realm.newStack (.make m count))
    return some (.stack r)

/-! ## Writing -/

namespace Realm

variable (realm : Realm)

/-- A location in a line. -/
def writeLocation (l : Location) : String :=
  realm.worldName l.world ++ " @ " ++ fixed 2 l.x ++ ", " ++ fixed 2 l.y ++ ", " ++ fixed 2 l.z

/-- Where an entity is and how it does. -/
def writeCondition (e : Entity) : String :=
  " at " ++ realm.writeLocation e.location ++ " (" ++ fixed 1 e.health ++ "/" ++
    fixed 1 e.maxHealth ++ " hp)"

/-- A player in a line. -/
def writePlayer (p : Player) : String :=
  p.base.name ++ " [" ++ Enumerated.label p.gameMode ++ "] level " ++ toString p.level.toInt ++
    realm.writeCondition p.base

/-- An entity in a line. -/
def writeEntity (e : Entity) : String :=
  e.name ++ "#" ++ toString e.id.toNat ++ realm.writeCondition e

end Realm

/-- A server in a line. -/
def Server.write (s : Server) : String :=
  s.name ++ " (" ++ toString s.worlds.length ++ " worlds, " ++ toString s.players.length ++ "/" ++
    toString s.maxPlayers.toNat ++ " players)"

/-- A constant as an object, when only its text matters. -/
def Constant.toObject (k : Constant) : Object := .value 0 (.constant k)

@[simp] theorem Constant.weight_toObject (k : Constant) : k.toObject.weight = 0 := by
  cases k <;> rfl

/-- A stack weighs less than an inventory. -/
theorem Object.weight_stack_lt (s : Ref .stack) (i : Ref .inventory) :
    (stack s).weight < (inventory i).weight := by
  simp [weight]

/-- Writes what shows itself under the relevant class in a line of its own. What is
    gone, or does not show itself, speaks for itself. -/
def lineOutput (α : Type) [Viewable α] (c : Class) (line : Realm → α → Option String) :
    OutputHandler where
  id := .shipped c
  relevant := c
  render h realm o _ := ((o.shows? α h c).bind (line realm)).getD (o.text h realm)

/-- Writes players. -/
def playerOutput : OutputHandler :=
  lineOutput (Ref .player) .player fun realm r =>
    (realm.players.get? r).map realm.writePlayer

/-- Writes entities. -/
def entityOutput : OutputHandler :=
  lineOutput EntityRef .entity fun realm e => (realm.entity? e).map realm.writeEntity

/-- Writes locations. -/
def locationOutput : OutputHandler :=
  lineOutput Location .location fun realm l => some (realm.writeLocation l)

/-- Writes servers. -/
def serverOutput : OutputHandler :=
  lineOutput (Ref .server) .server fun realm r => (realm.servers.get? r).map Server.write

/-- Writes blocks, the material through the registry. -/
def blockOutput : OutputHandler where
  id := .shipped .block
  relevant := .block
  render h realm o nested :=
    match o with
    | .value _ (.block b) =>
      nested (Constant.toObject (.material (realm.material b))) (by simp [Object.weight]) ++
        " at " ++ realm.worldName b.world ++ " " ++ toString b.pos.x.toInt ++ ", " ++
        toString b.pos.y.toInt ++ ", " ++ toString b.pos.z.toInt
    | o => o.text h realm

/-- Writes stacks, the material through the registry. -/
def itemStackOutput : OutputHandler where
  id := .shipped .itemStack
  relevant := .itemStack
  render h realm o nested :=
    match o with
    | .stack r =>
      match realm.itemStacks.get? r with
      | some s =>
        toString s.count.toNat ++ "x " ++
          nested (Constant.toObject (.material s.material)) (by simp [Object.weight])
      | none => (Object.stack r).text h realm
    | o => o.text h realm

/-- Writes inventories, each stack through the registry. -/
def inventoryOutput : OutputHandler where
  id := .shipped .inventory
  relevant := .inventory
  render h realm o nested :=
    match o with
    | .inventory r =>
      match realm.inventories.get? r with
      | some i =>
        "\x7b" ++
          ", ".intercalate (i.contents.map fun (slot, s) =>
            toString slot ++ ": " ++ nested (.stack s) (Object.weight_stack_lt s r)) ++
          "\x7d"
      | none => (Object.inventory r).text h realm
    | o => o.text h realm

/-- Writes worlds, the weather through the registry. -/
def worldOutput : OutputHandler where
  id := .shipped .world
  relevant := .world
  render h realm o nested :=
    match o with
    | .world r =>
      match realm.worlds.get? r with
      | some w =>
        w.name ++ " (" ++
          nested (Constant.toObject (.weather w.weather)) (by simp [Object.weight]) ++
          ", time " ++ toString w.time.toNat ++ ")"
      | none => (Object.world r).text h realm
    | o => o.text h realm

/-- The handlers for the residents of a server in order. Players come before entities,
    so they are written as players. -/
def residentHandlers (s : Ref .server) : List Handler :=
  [ .input (worldInput s), .input (playerInput s), .input (entityInput s),
    .input (locationInput s), .input (blockInput s), .input itemStackInput,
    .output playerOutput, .output entityOutput, .output locationOutput, .output blockOutput,
    .output itemStackOutput, .output inventoryOutput, .output worldOutput,
    .output serverOutput ]

namespace Registry

/-- The registry with the handlers for the residents of a server, as far as it accepts
    them, and how many these are. -/
def registerResidents (r : Registry) (s : Ref .server) : Nat × Registry :=
  r.registerAll (residentHandlers s)

end Registry

end Chainwalk
