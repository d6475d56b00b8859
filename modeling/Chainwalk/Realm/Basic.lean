import Chainwalk.Realm.Entity
import Chainwalk.Realm.Refusal
import Chainwalk.Realm.Server
import Chainwalk.Text.Ascii

/-!
# The realm

The realm is all that lives: servers, worlds, players, mobs, inventories and stacks,
each kind in a table of its own. A question about the realm is a function of it. A
change is a `RealmM` action: it may refuse, and what it has changed before it refuses
stays changed.

* `Realm.world?`, `Realm.player?`: look-up by name, whatever the case of ASCII letters;
* `Realm.createWorld`, `Realm.join`, `Realm.spawnMob`: how residents come about;
* `Realm.advance`: time passes on a server and in its worlds.
-/

namespace Chainwalk

/-- All that lives. -/
structure Realm where
  servers : Table .server Server
  worlds : Table .world World
  players : Table .player Player
  mobs : Table .mob Mob
  inventories : Table .inventory Inventory
  itemStacks : Stacks
  /-- The order in which the blocks of each world come, where all of them are shown. Each world
      has one of its own, and nothing is known of it. -/
  order : Ref .world → BlockOrder

/-- A change of the realm, which may be refused. -/
abbrev RealmM := ExceptT Refusal (StateM Realm)

/-- The entity at another health, which must lie within its bounds. -/
def Entity.withHealth (e : Entity) (health : Float) : Except Refusal Entity :=
  if e.allowsHealth health then .ok { e with health }
  else .error (.healthOutside health e.maxHealth)

namespace Realm

/-- The realm where nothing lives, with these orders for the blocks of the worlds to come. -/
def ordered (order : Ref .world → BlockOrder) : Realm :=
  ⟨.empty, .empty, .empty, .empty, .empty, .empty, order⟩

/-- The realm where nothing lives. -/
def empty : Realm := .ordered fun _ => .sorted

/-! ## Questions -/

section

variable (realm : Realm)

/-- The name of a world; worlds that are gone have none. -/
def worldName (r : Ref .world) : String :=
  ((realm.worlds.get? r).map World.name).getD "<unloaded>"

/-- The worlds of a server, in the order in which they were loaded. -/
def worldsOf (s : Ref .server) : List (Ref .world) :=
  ((realm.servers.get? s).map Server.worlds).getD []

/-- The players of a server, in the order in which they joined. -/
def playersOf (s : Ref .server) : List (Ref .player) :=
  ((realm.servers.get? s).map Server.players).getD []

/-- The first world of a server. -/
def defaultWorld? (s : Ref .server) : Option (Ref .world) := (realm.worldsOf s).head?

/-- The world of a server with the given name, whatever the case of its ASCII letters. -/
def world? (s : Ref .server) (name : String) : Option (Ref .world) :=
  (realm.worldsOf s).find? fun r =>
    (realm.worlds.get? r).any fun w => Text.sameIgnoringCase w.name name

/-- The player of a server with the given name, whatever the case of its ASCII letters. -/
def player? (s : Ref .server) (name : String) : Option (Ref .player) :=
  (realm.playersOf s).find? fun r =>
    (realm.players.get? r).any fun p => Text.sameIgnoringCase p.base.name name

/-- The server of a world, if it is still there. -/
def serverOf? (w : World) : Option (Ref .server) :=
  w.server.filter fun s => (realm.servers.get? s).isSome

/-- The players that stand in a world. -/
def playersIn (r : Ref .world) : List (Ref .player) :=
  match (realm.worlds.get? r).bind realm.serverOf? with
  | none => []
  | some s =>
    (realm.playersOf s).filter fun p =>
      (realm.players.get? p).any fun player => player.base.location.world = r

/-- The mobs that were spawned in a world. -/
def mobsOf (r : Ref .world) : List (Ref .mob) := ((realm.worlds.get? r).map World.mobs).getD []

/-- What all entities have, of the given one. -/
def entity? : EntityRef → Option Entity
  | .player r => (realm.players.get? r).map Player.base
  | .mob r => (realm.mobs.get? r).map Mob.base

/-- The material of a block; a block of a world that is gone is air. -/
def material (b : Block) : Material :=
  ((realm.worlds.get? b.world).map fun w => w.grid.get b.pos).getD .air

/-- Where new players appear in a world. -/
def spawnLocation? (r : Ref .world) : Option Location :=
  (realm.worlds.get? r).map fun w => ⟨r, w.spawn.1, w.spawn.2.1, w.spawn.2.2⟩

/-- The distance of two points, which must share a world. -/
def distance (a b : Location) : Except Refusal Float :=
  if a.world = b.world then .ok (a.separation b)
  else .error (.apart (realm.worldName a.world) (realm.worldName b.world))

/-- The text of a location, to two places. -/
def locationText (l : Location) : String :=
  realm.worldName l.world ++ "@" ++ fixed 2 l.x ++ "," ++ fixed 2 l.y ++ "," ++ fixed 2 l.z

/-- The text of a block: its material and its place. -/
def blockText (b : Block) : String :=
  Enumerated.label (realm.material b) ++ "@" ++ toString b.pos.x.toInt ++ "," ++
    toString b.pos.y.toInt ++ "," ++ toString b.pos.z.toInt

/-- The entity of a server with the given number: a player, else a mob of one of its
    worlds. -/
def entityById? (s : Ref .server) (id : UInt32) : Option EntityRef :=
  let isIt (e : EntityRef) : Bool := (realm.entity? e).any (·.id = id)
  (((realm.playersOf s).map EntityRef.player).find? isIt).or
    ((((realm.worldsOf s).flatMap realm.mobsOf).map EntityRef.mob).find? isIt)

/-- The entity at another place, if the world of that is loaded. -/
def moved? (e : Entity) (location : Location) : Option Entity :=
  (realm.worlds.get? location.world).map fun _ => { e with location }

/-- The stacks in the slots of an inventory that are not empty. -/
def contents (i : Inventory) : List (Nat × ItemStack) :=
  i.contents.filterMap fun (slot, r) => (realm.itemStacks.get? r).map (slot, ·)

end

/-! ## Reading and changing one resident -/

/-- The world behind a reference. -/
def getWorld (r : Ref .world) : RealmM World := do
  match (← get).worlds.get? r with
  | some w => return w
  | none => throw .unloaded

/-- The server behind a reference. -/
def getServer (r : Ref .server) : RealmM Server := do
  match (← get).servers.get? r with
  | some s => return s
  | none => throw .released

/-- The player behind a reference. -/
def getPlayer (r : Ref .player) : RealmM Player := do
  match (← get).players.get? r with
  | some p => return p
  | none => throw .released

/-- The mob behind a reference. -/
def getMob (r : Ref .mob) : RealmM Mob := do
  match (← get).mobs.get? r with
  | some m => return m
  | none => throw .released

/-- What all entities have, of the given one. -/
def getEntity (e : EntityRef) : RealmM Entity := do
  match (← get).entity? e with
  | some b => return b
  | none => throw .released

/-- The inventory behind a reference. -/
def getInventory (r : Ref .inventory) : RealmM Inventory := do
  match (← get).inventories.get? r with
  | some i => return i
  | none => throw .released

/-- The stack behind a reference. -/
def getStack (r : Ref .stack) : RealmM ItemStack := do
  match (← get).itemStacks.get? r with
  | some s => return s
  | none => throw .released

/-- Changes the world behind a reference. -/
def modifyWorld (r : Ref .world) (f : World → World) : RealmM Unit :=
  modify fun realm => { realm with worlds := realm.worlds.modify r f }

/-- Changes the server behind a reference. -/
def modifyServer (r : Ref .server) (f : Server → Server) : RealmM Unit :=
  modify fun realm => { realm with servers := realm.servers.modify r f }

/-- Changes the player behind a reference. -/
def modifyPlayer (r : Ref .player) (f : Player → Player) : RealmM Unit :=
  modify fun realm => { realm with players := realm.players.modify r f }

/-- Changes what all entities have, of the given one. -/
def modifyEntity (e : EntityRef) (f : Entity → Entity) : RealmM Unit :=
  modify fun realm =>
    match e with
    | .player r =>
      { realm with players := realm.players.modify r fun p => { p with base := f p.base } }
    | .mob r => { realm with mobs := realm.mobs.modify r fun m => { m with base := f m.base } }

/-- Changes the stack behind a reference. -/
def modifyStack (r : Ref .stack) (f : ItemStack → ItemStack) : RealmM Unit :=
  modify fun realm => { realm with itemStacks := realm.itemStacks.modify r f }

/-- Adds a stack. -/
def newStack (s : ItemStack) : RealmM (Ref .stack) :=
  modifyGet fun realm =>
    (realm.itemStacks.next, { realm with itemStacks := realm.itemStacks.insert s })

/-- Adds an empty inventory. -/
def newInventory : RealmM (Ref .inventory) :=
  modifyGet fun realm =>
    (realm.inventories.next, { realm with inventories := realm.inventories.insert .empty })

/-- Adds a world. -/
def newWorld (w : World) : RealmM (Ref .world) :=
  modifyGet fun realm => (realm.worlds.next, { realm with worlds := realm.worlds.insert w })

/-- Adds a server. -/
def newServer (s : Server) : RealmM (Ref .server) :=
  modifyGet fun realm => (realm.servers.next, { realm with servers := realm.servers.insert s })

/-- Adds a player with an empty inventory. -/
def newPlayer (id : UInt32) (name : String) (location : Location) : RealmM (Ref .player) := do
  let inventory ← newInventory
  modifyGet fun realm =>
    (realm.players.next,
      { realm with players := realm.players.insert (.make id name location inventory) })

/-- Adds a mob. -/
def newMob (id : UInt32) (kind : MobType) (location : Location) : RealmM (Ref .mob) :=
  modifyGet fun realm =>
    (realm.mobs.next, { realm with mobs := realm.mobs.insert (.make id kind location) })

/-! ## Blocks -/

/-- Puts a material into a cell of a world. -/
def setBlock (r : Ref .world) (p : BlockPos) (m : Material) : RealmM Unit := do
  if p.y < minHeight || maxHeight ≤ p.y then throw (.heightOutside p.y)
  if !m.isBlock then throw (.notPlaceable m)
  modifyWorld r fun w => { w with grid := w.grid.set p m }

/-- Puts a material into a block whose world is loaded. -/
def setMaterial (b : Block) (m : Material) : RealmM Unit := do
  let _ ← getWorld b.world
  setBlock b.world b.pos m

/-! ## Entities -/

/-- Moves an entity, if the world it goes to is loaded. -/
def teleport (e : EntityRef) (location : Location) : RealmM Bool := do
  match (← get).moved? (← getEntity e) location with
  | some base =>
    modifyEntity e fun _ => base
    return true
  | none => return false

/-- Sets the health of an entity, which must lie within its bounds. -/
def setHealth (e : EntityRef) (health : Float) : RealmM Unit := do
  let base ← (← getEntity e).withHealth health
  modifyEntity e fun _ => base

/-! ## Servers -/

/-- The next free number for an entity of a server. -/
def allocateEntityId (s : Ref .server) : RealmM UInt32 := do
  let server ← getServer s
  modifyServer s ({ · with nextEntityId := server.nextEntityId + 1 })
  return server.nextEntityId

/-- Loads a new, empty world. -/
def createWorld (s : Ref .server) (name : String) (seed : UInt64) : RealmM (Ref .world) := do
  if ((← get).world? s name).isSome then throw (.worldExists name)
  let r ← newWorld (.make name seed (some s))
  modifyServer s fun server => { server with worlds := server.worlds ++ [r] }
  return r

/-- Connects a new player. -/
def join (s : Ref .server) (name : String) (location : Location) : RealmM (Ref .player) := do
  if ((← get).player? s name).isSome then throw (.playerOnline name)
  let server ← getServer s
  if server.maxPlayers.toNat ≤ server.players.length then throw .serverFull
  let r ← newPlayer (← allocateEntityId s) name location
  modifyServer s fun server => { server with players := server.players ++ [r] }
  return r

/-- Spawns a mob at a location of the world. Its number comes from the server, or is zero
    when there is none. -/
def spawnMob (r : Ref .world) (kind : MobType) (location : Location) : RealmM (Ref .mob) := do
  let world ← getWorld r
  if location.world ≠ r then throw (.notInWorld world.name)
  let id ←
    match (← get).serverOf? world with
    | some s => allocateEntityId s
    | none => pure 0
  let mob ← newMob id kind location
  modifyWorld r fun w => { w with mobs := w.mobs ++ [mob] }
  return mob

/-- Lets time pass on a server and in all its worlds. -/
def advance (s : Ref .server) (ticks : UInt64) : RealmM Unit :=
  modify fun realm =>
    { realm with
      servers := realm.servers.modify s (·.advanced ticks)
      worlds := (realm.worldsOf s).foldl (fun t r => t.modify r (·.advanced ticks)) realm.worlds }

/-- Delivers a message to every player of a server, and counts them. -/
def broadcast (s : Ref .server) (message : String) : RealmM Nat :=
  modifyGet fun realm =>
    let players := realm.playersOf s
    (players.length,
      { realm with
        players := players.foldl (fun t p => t.modify p (·.receiving message)) realm.players })

/-! ## Inventories -/

/-- Adds items to an inventory and says how many did not fit. -/
def addItems (r : Ref .inventory) (m : Material) (n : UInt8) : RealmM UInt8 := do
  let i ← getInventory r
  modifyGet fun realm =>
    let (after, left, table) := i.add m n realm.itemStacks
    (left, { realm with
      itemStacks := table
      inventories := realm.inventories.modify r fun _ => after })

/-- Takes items out of an inventory and says how many there were to take. -/
def removeItems (r : Ref .inventory) (m : Material) (n : UInt32) : RealmM UInt32 := do
  let i ← getInventory r
  modifyGet fun realm =>
    let (after, taken, table) := i.remove m n realm.itemStacks
    (taken, { realm with
      itemStacks := table
      inventories := realm.inventories.modify r fun _ => after })

/-- Changes the inventory behind a reference. -/
def modifyInventory (r : Ref .inventory) (f : Inventory → Inventory) : RealmM Unit :=
  modify fun realm => { realm with inventories := realm.inventories.modify r f }

/-! ## Leaving -/

/-- Releases the server, and with it the worlds that nobody else holds. -/
def dropServer (s : Ref .server) (held : List (Ref .world)) : RealmM Unit :=
  modify fun realm =>
    { realm with
      servers := realm.servers.release s
      worlds := ((realm.worldsOf s).filter (· ∉ held)).foldl Table.release realm.worlds }

/-- Releases a world that is held no longer, unless a server has it loaded. -/
def dropWorld (r : Ref .world) : RealmM Unit :=
  modify fun realm =>
    if realm.servers.refs.any fun s => r ∈ realm.worldsOf s then realm
    else { realm with worlds := realm.worlds.release r }

end Realm

end Chainwalk
