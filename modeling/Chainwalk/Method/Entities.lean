import Chainwalk.Method.Plain

/-!
# Methods of entities

The methods that all entities share work on the entity part of their receiver; players
and mobs add their own.
-/

namespace Chainwalk

open Method

/-- The entity part of the receiver, with where it comes from. -/
def entityReceiver (h : Hierarchy) (recv : Object) : Act (EntityRef × Entity) := do
  let e ← Act.ofExcept (receiver EntityRef h recv .entity)
  return (e, ← Act.realm (Realm.getEntity e))

/-- The receiver as a player, with where it comes from. -/
def playerReceiver (h : Hierarchy) (recv : Object) : Act (Ref .player × Player) := do
  let r ← Act.ofExcept (receiver (Ref .player) h recv .player)
  return (r, ← Act.realm (Realm.getPlayer r))

/-- The receiver as a mob. -/
def mobReceiver (h : Hierarchy) (recv : Object) : Act Mob := do
  Act.realm (Realm.getMob (← Act.ofExcept (receiver (Ref .mob) h recv .mob)))

/-- The world, as an object, if it is loaded. -/
def loadedWorld (r : Ref .world) : Act Value := do
  let _ ← Act.realm (Realm.getWorld r)
  return some (.world r)

/-- The methods of all entities. -/
def entityMethods : List Method :=
  [ declare .entity "getEntityId" [] (some .int) fun h recv _ => do
      Act.scalar .int (← entityReceiver h recv).2.id.toInt32,
    declare .entity "getName" [] (some .string) fun h recv _ => do
      Act.scalar .string (← entityReceiver h recv).2.name,
    declare .entity "getLocation" [] (some .location) fun h recv _ => do
      Act.new (.location (← entityReceiver h recv).2.location),
    declare .entity "getWorld" [] (some .world) fun h recv _ => do
      loadedWorld (← entityReceiver h recv).2.location.world,
    declare .entity "teleport" [.location] (some .boolean) fun h recv args => do
      let place ← Act.ofExcept (argument Location h args 0 .location)
      let (e, _) ← entityReceiver h recv
      Act.scalar .boolean (← Act.realm (Realm.teleport e place)),
    declare .entity "getHealth" [] (some .double) fun h recv _ => do
      Act.scalar .double (← entityReceiver h recv).2.health,
    declare .entity "getMaxHealth" [] (some .double) fun h recv _ => do
      Act.scalar .double (← entityReceiver h recv).2.maxHealth,
    declare .entity "setHealth" [.double] none fun h recv args => do
      let (e, _) ← entityReceiver h recv
      let health ← Act.ofExcept (argument Float h args 0 .double)
      Act.realm (Realm.setHealth e health)
      return none,
    declare .entity "isDead" [] (some .boolean) fun h recv _ => do
      Act.scalar .boolean (← entityReceiver h recv).2.isDead ]

/-- The methods of players. -/
def playerMethods : List Method :=
  [ declare .player "getGameMode" [] (some .gameMode) fun h recv _ => do
      Act.new (.constant (.gameMode (← playerReceiver h recv).2.gameMode)),
    declare .player "setGameMode" [.gameMode] none fun h recv args => do
      let gameMode ← Act.ofExcept (argument GameMode h args 0 .gameMode)
      let (r, _) ← playerReceiver h recv
      Act.realm (Realm.modifyPlayer r ({ · with gameMode }))
      return none,
    declare .player "getLevel" [] (some .int) fun h recv _ => do
      Act.scalar .int (← playerReceiver h recv).2.level,
    declare .player "setLevel" [.int] none fun h recv args => do
      let (r, _) ← playerReceiver h recv
      let level ← Act.ofExcept (argument Int32 h args 0 .int)
      Act.realm (Realm.modifyPlayer r (·.atLevel level))
      return none,
    declare .player "getInventory" [] (some .inventory) fun h recv _ => do
      return some (.inventory (← playerReceiver h recv).2.inventory),
    declare .player "sendMessage" [.string] none fun h recv args => do
      let message ← Act.ofExcept (argument String h args 0 .string)
      let (r, _) ← playerReceiver h recv
      Act.realm (Realm.modifyPlayer r (·.receiving message))
      return none,
    declare .player "getMessages" [] (some .list) fun h recv _ => do
      let messages := (← playerReceiver h recv).2.messages
      Act.newList (← messages.mapM fun m => Act.scalar .string m),
    hidden <| declare .player "getAddress" [] (some .string) fun h recv _ => do
      Act.scalar .string (← playerReceiver h recv).2.address ]

/-- The methods of mobs. -/
def mobMethods : List Method :=
  [ declare .mob "getMobType" [] (some .mobType) fun h recv _ => do
      Act.new (.constant (.mobType (← mobReceiver h recv).kind)),
    declare .mob "isHostile" [] (some .boolean) fun h recv _ => do
      Act.scalar .boolean (← mobReceiver h recv).kind.isHostile,
    declare .mob "getCustomName" [] (some .string) fun _ _ _ => return none ]

end Chainwalk
