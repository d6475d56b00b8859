import Chainwalk.Method.Entities

/-!
# Methods of servers and worlds

The methods of servers, of worlds, and of the places in them.
-/

namespace Chainwalk

open Method

/-- The receiver as a server, with where it comes from. -/
def serverReceiver (h : Hierarchy) (recv : Object) : Act (Ref .server × Server) := do
  let r ← Act.ofExcept (receiver (Ref .server) h recv .server)
  return (r, ← Act.realm (Realm.getServer r))

/-- The receiver as a world, with where it comes from. -/
def worldReceiver (h : Hierarchy) (recv : Object) : Act (Ref .world × World) := do
  let r ← Act.ofExcept (receiver (Ref .world) h recv .world)
  return (r, ← Act.realm (Realm.getWorld r))

/-- The receiver as a location. -/
def locationReceiver (h : Hierarchy) (recv : Object) : Act Location :=
  Act.ofExcept (receiver Location h recv .location)

/-- The receiver as a block. -/
def blockReceiver (h : Hierarchy) (recv : Object) : Act Block :=
  Act.ofExcept (receiver Block h recv .block)

/-- An argument of the class of integers. -/
def intArgument (h : Hierarchy) (args : List Value) (index : Nat) : Act Int32 :=
  Act.ofExcept (argument Int32 h args index .int)

/-- An argument of the class of fractions. -/
def doubleArgument (h : Hierarchy) (args : List Value) (index : Nat) : Act Float :=
  Act.ofExcept (argument Float h args index .double)

/-- The methods of servers. -/
def serverMethods : List Method :=
  [ declare .server "getName" [] (some .string) fun h recv _ => do
      Act.scalar .string (← serverReceiver h recv).2.name,
    declare .server "getVersion" [] (some .string) fun _ _ _ =>
      Act.scalar .string Server.version,
    declare .server "getMaxPlayers" [] (some .int) fun h recv _ => do
      Act.scalar .int (← serverReceiver h recv).2.maxPlayers.toInt32,
    declare .server "getTick" [] (some .long) fun h recv _ => do
      Act.scalar .long (← serverReceiver h recv).2.tick.toInt64,
    declare .server "getWorlds" [] (some .list) fun h recv _ => do
      Act.newListOf ((← serverReceiver h recv).2.worlds.map .world),
    declare .server "getWorld" [.string] (some .world) fun h recv args => do
      let name ← Act.ofExcept (argument String h args 0 .string)
      let (r, _) ← serverReceiver h recv
      return (← Act.ask (·.world? r name)).map Object.world,
    declare .server "getPlayer" [.string] (some .player) fun h recv args => do
      let name ← Act.ofExcept (argument String h args 0 .string)
      let (r, _) ← serverReceiver h recv
      return (← Act.ask (·.player? r name)).map Object.player,
    declare .server "getOnlinePlayers" [] (some .list) fun h recv _ => do
      Act.newListOf ((← serverReceiver h recv).2.players.map .player),
    declare .server "broadcast" [.string] (some .int) fun h recv args => do
      let message ← Act.ofExcept (argument String h args 0 .string)
      let (r, _) ← serverReceiver h recv
      Act.scalar .int (count32 (← Act.realm (Realm.broadcast r message))),
    declare .server "advance" [.long] none fun h recv args => do
      let ticks ← Act.ofExcept (argument Int64 h args 0 .long)
      if ticks < 0 then throw (.refused .negativeTicks)
      let (r, _) ← serverReceiver h recv
      Act.realm (Realm.advance r ticks.toUInt64)
      return none,
    hidden <| declare .server "getNextEntityId" [] (some .int) fun h recv _ => do
      Act.scalar .int (← serverReceiver h recv).2.nextEntityId.toInt32 ]

/-- The methods of worlds. -/
def worldMethods : List Method :=
  [ declare .world "getName" [] (some .string) fun h recv _ => do
      Act.scalar .string (← worldReceiver h recv).2.name,
    hidden <| declare .world "getSeed" [] (some .long) fun h recv _ => do
      Act.scalar .long (← worldReceiver h recv).2.seed.toInt64,
    declare .world "getTime" [] (some .long) fun h recv _ => do
      Act.scalar .long (← worldReceiver h recv).2.time.toInt64,
    declare .world "setTime" [.long] none fun h recv args => do
      let time ← Act.ofExcept (argument Int64 h args 0 .long)
      if time < 0 then throw (.refused .negativeTime)
      let (r, _) ← worldReceiver h recv
      Act.realm (Realm.modifyWorld r ({ · with time := time.toUInt64 }))
      return none,
    declare .world "isDayTime" [] (some .boolean) fun h recv _ => do
      Act.scalar .boolean (← worldReceiver h recv).2.isDayTime,
    declare .world "getWeather" [] (some .weather) fun h recv _ => do
      Act.new (.constant (.weather (← worldReceiver h recv).2.weather)),
    declare .world "setWeather" [.weather] none fun h recv args => do
      let weather ← Act.ofExcept (argument Weather h args 0 .weather)
      let (r, _) ← worldReceiver h recv
      Act.realm (Realm.modifyWorld r ({ · with weather }))
      return none,
    declare .world "getBlockAt" [.int, .int, .int] (some .block) fun h recv args => do
      let (r, _) ← worldReceiver h recv
      let x ← intArgument h args 0
      let y ← intArgument h args 1
      let z ← intArgument h args 2
      Act.new (.block ⟨r, x, y, z⟩),
    declare .world "getBlockAt" [.location] (some .block) fun h recv args => do
      let (r, _) ← worldReceiver h recv
      let location ← Act.ofExcept (argument Location h args 0 .location)
      if location.world ≠ r then
        throw (.refused (.liesIn (← Act.ask (·.worldName location.world))))
      Act.new (.block location.block),
    declare .world "getHighestBlockYAt" [.int, .int] (some .int) fun h recv args => do
      let (_, w) ← worldReceiver h recv
      let x ← intArgument h args 0
      let z ← intArgument h args 1
      Act.scalar .int ((w.grid.highest? x z).getD minHeight),
    declare .world "getSpawnLocation" [] (some .location) fun h recv _ => do
      let (r, w) ← worldReceiver h recv
      Act.new (.location ⟨r, w.spawn.1, w.spawn.2.1, w.spawn.2.2⟩),
    declare .world "getPlayers" [] (some .list) fun h recv _ => do
      let (r, _) ← worldReceiver h recv
      Act.newListOf ((← Act.ask (·.playersIn r)).map .player),
    declare .world "getEntities" [] (some .list) fun h recv _ => do
      let (r, w) ← worldReceiver h recv
      Act.newListOf ((← Act.ask (·.playersIn r)).map .player ++ w.mobs.map .mob),
    declare .world "spawnMob" [.mobType, .location] (some .mob) fun h recv args => do
      let (r, _) ← worldReceiver h recv
      let kind ← Act.ofExcept (argument MobType h args 0 .mobType)
      let location ← Act.ofExcept (argument Location h args 1 .location)
      return some (.mob (← Act.realm (Realm.spawnMob r kind location))) ]

/-- The methods of locations. -/
def locationMethods : List Method :=
  [ getter Location .location "getX" .double fun _ l => l.x,
    getter Location .location "getY" .double fun _ l => l.y,
    getter Location .location "getZ" .double fun _ l => l.z,
    getter Location .location "getBlockX" .int fun _ l => l.blockPos.x,
    getter Location .location "getBlockY" .int fun _ l => l.blockPos.y,
    getter Location .location "getBlockZ" .int fun _ l => l.blockPos.z,
    declare .location "getWorld" [] (some .world) fun h recv _ => do
      loadedWorld (← locationReceiver h recv).world,
    declare .location "getBlock" [] (some .block) fun h recv _ => do
      Act.new (.block (← locationReceiver h recv).block),
    declare .location "add" [.double, .double, .double] (some .location) fun h recv args => do
      let l ← locationReceiver h recv
      let dx ← doubleArgument h args 0
      let dy ← doubleArgument h args 1
      let dz ← doubleArgument h args 2
      Act.new (.location (l.offset dx dy dz)),
    declare .location "distance" [.location] (some .double) fun h recv args => do
      let l ← locationReceiver h recv
      let k ← Act.ofExcept (argument Location h args 0 .location)
      let d ← Act.ask (·.distance l k)
      Act.scalar .double (← Act.ofExcept (d.mapError Fault.refused)) ]

/-- The methods of blocks. -/
def blockMethods : List Method :=
  [ declare .block "getType" [] (some .material) fun h recv _ => do
      let b ← blockReceiver h recv
      Act.new (.constant (.material (← Act.ask (·.material b)))),
    declare .block "setType" [.material] none fun h recv args => do
      let m ← Act.ofExcept (argument Material h args 0 .material)
      let b ← blockReceiver h recv
      Act.realm (Realm.setMaterial b m)
      return none,
    getter Block .block "getX" .int fun _ b => b.pos.x,
    getter Block .block "getY" .int fun _ b => b.pos.y,
    getter Block .block "getZ" .int fun _ b => b.pos.z,
    declare .block "getWorld" [] (some .world) fun h recv _ => do
      loadedWorld (← blockReceiver h recv).world,
    declare .block "getLocation" [] (some .location) fun h recv _ => do
      Act.new (.location (← blockReceiver h recv).location),
    declare .block "getRelative" [.int, .int, .int] (some .block) fun h recv args => do
      let b ← blockReceiver h recv
      let dx ← intArgument h args 0
      let dy ← intArgument h args 1
      let dz ← intArgument h args 2
      Act.new (.block (b.relative dx dy dz)),
    declare .block "isEmpty" [] (some .boolean) fun h recv _ => do
      let b ← blockReceiver h recv
      Act.scalar .boolean (← Act.ask (·.material b)).isAir ]

end Chainwalk
