import Chainwalk.Realm.Basic

/-!
# Snapshots

A snapshot is what a server is built from: its worlds with their blocks and mobs, and
its players with their items. `Snapshot.load` builds the server; `Snapshot.sample` is
the snapshot that is always there.
-/

namespace Chainwalk

/-- Three numbers along the axes. -/
abbrev Triple (α : Type) := α × α × α

/-- A box of blocks of one material, given by two opposite corners. -/
structure Fill where
  corner : Triple Int32
  opposite : Triple Int32
  material : Material

/-- A mob of a world. -/
structure MobSpec where
  kind : MobType
  position : Triple Float

/-- A number of items of a player. -/
structure ItemSpec where
  material : Material
  count : UInt8

/-- A world of a server. -/
structure WorldSpec where
  name : String
  seed : UInt64
  time : UInt64
  weather : Weather
  /-- The spawn point, if it is not the usual one. -/
  spawn : Option (Triple Float)
  /-- The boxes of blocks, each put over the ones before it. -/
  fills : List Fill
  mobs : List MobSpec

/-- A player of a server. -/
structure PlayerSpec where
  name : String
  /-- The name of the player's world; none for the first one. -/
  world : String
  /-- Where the player stands, if not at the spawn point. -/
  position : Option (Triple Float)
  gameMode : GameMode
  level : Int32
  items : List ItemSpec

/-- What a server is built from. -/
structure Snapshot where
  name : String
  maxPlayers : UInt32
  worlds : List WorldSpec
  players : List PlayerSpec

namespace WorldSpec

/-- The world of which nothing is said. -/
def default : WorldSpec := ⟨"", 0, 0, .clear, none, [], []⟩

end WorldSpec

namespace PlayerSpec

/-- The player of whom nothing is said. -/
def default : PlayerSpec := ⟨"", "", none, .survival, 0, []⟩

end PlayerSpec

/-- Runs an action for `count` numbers in order, from `first` on. -/
def forCount (action : Int32 → RealmM Unit) : Nat → Int → RealmM Unit
  | 0, _ => pure ()
  | count + 1, first => do
    action (Int32.ofInt first)
    forCount action count (first + 1)

/-- Runs an action for the numbers from the lesser of two to the greater, in order. -/
def forBetween (a b : Int32) (action : Int32 → RealmM Unit) : RealmM Unit :=
  forCount action ((max a b).toInt - (min a b).toInt).toNat.succ (min a b).toInt

/-- A location in a world. -/
def locationIn (r : Ref .world) (p : Triple Float) : Location := ⟨r, p.1, p.2.1, p.2.2⟩

namespace Snapshot

/-- The snapshot of which nothing is said. -/
def default : Snapshot := ⟨"mdinspect", 20, [], []⟩

/-- Puts the material into every block of the box, in the order of the coordinates. -/
def loadFill (r : Ref .world) (f : Fill) : RealmM Unit :=
  forBetween f.corner.1 f.opposite.1 fun x =>
    forBetween f.corner.2.1 f.opposite.2.1 fun y =>
      forBetween f.corner.2.2 f.opposite.2.2 fun z =>
        Realm.setBlock r ⟨x, y, z⟩ f.material

/-- Builds a world of the server. -/
def loadWorld (s : Ref .server) (w : WorldSpec) : RealmM Unit := do
  let r ← Realm.createWorld s w.name w.seed
  Realm.modifyWorld r fun world =>
    { world with time := w.time, weather := w.weather, spawn := w.spawn.getD world.spawn }
  w.fills.forM (loadFill r)
  w.mobs.forM fun m => do
    let _ ← Realm.spawnMob r m.kind (locationIn r m.position)

/-- Builds a player of the server. -/
def loadPlayer (s : Ref .server) (p : PlayerSpec) : RealmM Unit := do
  let realm ← get
  let world? := if p.world.isEmpty then realm.defaultWorld? s else realm.world? s p.world
  match world? with
  | none => throw (.unknownWorld p.name p.world)
  | some r => do
    let spawn := (realm.spawnLocation? r).getD (locationIn r (0.5, 64, 0.5))
    let joined ← Realm.join s p.name ((p.position.map (locationIn r)).getD spawn)
    Realm.modifyPlayer joined fun player =>
      { player.atLevel p.level with gameMode := p.gameMode }
    let player ← Realm.getPlayer joined
    p.items.forM fun item => do
      let _ ← Realm.addItems player.inventory item.material item.count

/-- Builds the server of a snapshot, worlds first. -/
def load (s : Snapshot) : RealmM (Ref .server) := do
  let r ← Realm.newServer (.make s.name s.maxPlayers)
  s.worlds.forM (loadWorld r)
  s.players.forM (loadPlayer r)
  return r

/-- The snapshot that is always there: two worlds and two players. -/
def sample : Snapshot where
  name := "mdinspect"
  maxPlayers := 20
  worlds :=
    [ { name := "overworld"
        seed := 42
        time := 6000
        weather := .clear
        spawn := some (0.5, 65, 0.5)
        fills :=
          [ ⟨(-4, 60, -4), (4, 62, 4), .stone⟩, ⟨(-4, 63, -4), (4, 63, 4), .dirt⟩,
            ⟨(-4, 64, -4), (4, 64, 4), .grassBlock⟩, ⟨(3, 65, -3), (3, 68, -3), .oakLog⟩ ]
        mobs := [⟨.zombie, (4.5, 65, 4.5)⟩, ⟨.pig, (-3.5, 65, 2.5)⟩] },
      { name := "world_nether"
        seed := 42
        time := 18000
        weather := .clear
        spawn := some (0.5, 40, 0.5)
        fills := [⟨(-3, 36, -3), (3, 39, 3), .netherrack⟩]
        mobs := [⟨.blaze, (2.5, 40, 2.5)⟩] } ]
  players :=
    [ { name := "alice"
        world := "overworld"
        position := none
        gameMode := .survival
        level := 12
        items := [⟨.stone, 64⟩, ⟨.dirt, 12⟩, ⟨.diamond, 3⟩, ⟨.diamondSword, 1⟩] },
      { name := "bob"
        world := "world_nether"
        position := some (1.5, 40, -2.5)
        gameMode := .creative
        level := 3
        items := [⟨.enderPearl, 16⟩, ⟨.oakLog, 20⟩] } ]

end Snapshot

end Chainwalk
