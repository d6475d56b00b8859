import Chainwalk.Proofs.Chain.Calls
import Chainwalk.Proofs.Realm.Along

/-!
# Methods along a relation

A method goes along a relation of realms if its body does, whatever it is called on and with
whatever arguments. Most methods only look at the realm, so they go along every relation that is
reflexive and transitive. The others make one change of it each, and go along the relation if the
change does. There are three of which the relations of interest may say more: `Method.teleport`,
`Method.setAmount` and `Method.setItem`.

* `Method.Along`: methods that go along a relation;
* `Method.Along.invoke`: then calls of them do;
* `along_entityMethods` to `along_worldMethods`: the methods class by class, given the changes;
* `along_teleport`, `along_setAmount`, `along_setItem`: the three methods, given theirs;
* `Realm.ChangesAlong`, `Builtin.along_methods`: all methods of the built-in classes.
-/

namespace Chainwalk

open Method Act

variable {R : Realm → Realm → Prop}

/-- A method that goes along a relation of realms. -/
def Method.Along (R : Realm → Realm → Prop) (m : Method) : Prop :=
  ∀ h recv args, Chainwalk.Along (InvImage R Store.realm) (m.body h recv args)

variable [IsPreorder Realm R]

/-! ## Calls -/

/-- A call leads to where the body leads, unless it is forbidden. -/
theorem Method.snd_invoke (m : Method) (h : Hierarchy) (recv : Object) (args : List Value)
    (s : Store) :
    (m.invoke h recv args s).2 =
      if m.obstacle? h recv args = none then (m.body h recv args s).2 else s := by
  rw [invoke_eq]
  rcases m.obstacle? h recv args with _ | fault
  · rcases m.body h recv args s with ⟨fault | v, t⟩ <;> rfl
  · rfl

theorem Method.Along.invoke {m : Method} (hm : m.Along R) (h : Hierarchy) (recv : Object)
    (args : List Value) : Chainwalk.Along (InvImage R Store.realm) (m.invoke h recv args) := by
  intro s
  rw [snd_invoke]
  split
  · exact hm h recv args s
  · exact refl_of R s.realm

/-! ## Plain values -/

theorem along_getter (α : Type) [Viewable α] (declaring : Class) (name : String) (k : ScalarKind)
    (g : Hierarchy → α → k.Carrier) : (getter α declaring name k g).Along R :=
  fun _ _ _ => (along_ofExcept _).bind fun _ => along_scalar _ _

theorem along_objectMethods : ∀ m ∈ objectMethods, m.Along R := by
  simp only [objectMethods, List.forall_mem_cons]
  refine ⟨fun _ _ _ => ?toString, fun _ _ _ => ?hashCode, fun _ _ _ => ?getClass,
    fun _ _ _ => ?equals, fun _ hm => by cases hm⟩
  case hashCode => exact (along_code _).bind fun _ => along_scalar _ _
  case getClass => exact along_new _
  case toString | equals => exact (along_ask _).bind fun _ => along_scalar _ _

theorem along_enumerationMethods : ∀ m ∈ enumerationMethods, m.Along R := by
  simp only [enumerationMethods, List.forall_mem_cons]
  refine ⟨fun _ _ _ => ?name, fun _ _ _ => ?ordinal, fun _ hm => by cases hm⟩
  all_goals exact (along_ofExcept _).bind fun _ => along_scalar _ _

theorem along_classMethods : ∀ m ∈ classMethods, m.Along R := by
  simp only [classMethods, List.forall_mem_cons]
  refine ⟨along_getter _ _ _ _ _, along_getter _ _ _ _ _, along_getter _ _ _ _ _,
    along_getter _ _ _ _ _, fun _ _ _ => (along_ofExcept _).bind fun c => ?getInterfaces,
    fun _ _ _ => (along_ofExcept _).bind fun c => ?getEnumConstants, fun _ hm => by cases hm⟩
  case getInterfaces => exact (Along.mapM (fun _ => along_new _) _).bind fun _ => along_newList _
  case getEnumConstants =>
    split
    · exact (Along.mapM (fun _ => along_new _) _).bind fun _ => along_newList _
    · exact .pure _

theorem along_stringMethods : ∀ m ∈ stringMethods, m.Along R := by
  simp only [stringMethods, List.forall_mem_cons]
  refine ⟨along_getter _ _ _ _ _, along_getter _ _ _ _ _, along_getter _ _ _ _ _,
    along_getter _ _ _ _ _, fun _ _ _ => (along_ofExcept _).bind fun _ => ?charAt,
    fun _ _ _ => (along_ofExcept _).bind fun _ => ?contains, fun _ hm => by cases hm⟩
  case charAt =>
    exact (along_ofExcept _).bind fun _ => (along_ofExcept _).bind fun _ => along_scalar _ _
  case contains => exact (along_ofExcept _).bind fun _ => along_scalar _ _

theorem along_collectionMethods : ∀ m ∈ collectionMethods, m.Along R := by
  simp only [collectionMethods, List.forall_mem_cons]
  exact ⟨along_getter _ _ _ _ _, along_getter _ _ _ _ _, fun _ hm => by cases hm⟩

theorem along_listMethods : ∀ m ∈ listMethods, m.Along R := by
  simp only [listMethods, List.forall_mem_cons]
  refine ⟨fun _ _ _ => ?get, fun _ hm => by cases hm⟩
  exact (along_ofExcept _).bind fun _ => (along_ofExcept _).bind fun _ => along_ofExcept _

/-! ## What is looked up -/

namespace Realm

theorem along_getWorld (r : Ref .world) : Along R (getWorld r) := by
  refine .get_bind fun realm => ?_
  cases realm.worlds.get? r with
  | none => exact .throw _
  | some _ => exact .pure _

theorem along_getServer (r : Ref .server) : Along R (getServer r) := by
  refine .get_bind fun realm => ?_
  cases realm.servers.get? r with
  | none => exact .throw _
  | some _ => exact .pure _

theorem along_getPlayer (r : Ref .player) : Along R (getPlayer r) := by
  refine .get_bind fun realm => ?_
  cases realm.players.get? r with
  | none => exact .throw _
  | some _ => exact .pure _

theorem along_getMob (r : Ref .mob) : Along R (getMob r) := by
  refine .get_bind fun realm => ?_
  cases realm.mobs.get? r with
  | none => exact .throw _
  | some _ => exact .pure _

theorem along_getEntity (e : EntityRef) : Along R (getEntity e) := by
  refine .get_bind fun realm => ?_
  cases realm.entity? e with
  | none => exact .throw _
  | some _ => exact .pure _

theorem along_getInventory (r : Ref .inventory) : Along R (getInventory r) := by
  refine .get_bind fun realm => ?_
  cases realm.inventories.get? r with
  | none => exact .throw _
  | some _ => exact .pure _

theorem along_getStack (r : Ref .stack) : Along R (getStack r) := by
  refine .get_bind fun realm => ?_
  cases Table.get? realm.itemStacks r with
  | none => exact .throw _
  | some _ => exact .pure _

/-! ## Numbers, players and mobs -/

theorem along_allocateEntityId (s : Ref .server)
    (hnumber : ∀ n, Along R (modifyServer s ({ · with nextEntityId := n }))) :
    Along R (allocateEntityId s) :=
  (along_getServer s).bind fun _ => (hnumber _).bind fun _ => .pure _

/-- A player gets a number, and comes to the list of the server. -/
theorem along_join (s : Ref .server) (name : String) (l : Location)
    (hnumber : ∀ n, Along R (modifyServer s ({ · with nextEntityId := n })))
    (hnew : ∀ id, Along R (newPlayer id name l))
    (hlist : ∀ p, Along R (modifyServer s fun v => { v with players := v.players ++ [p] })) :
    Along R (join s name l) :=
  .get_bind fun _ => .guard _ <| (along_getServer s).bind fun _ => .guard _ <|
    (along_allocateEntityId s hnumber).bind fun id => (hnew id).bind fun p =>
      (hlist p).bind fun _ => .pure _

/-- A mob gets a number, if there is a server, and comes to the list of its world. -/
theorem along_spawnMob (r : Ref .world) (kind : MobType) (l : Location)
    (hnumber : ∀ s n, Along R (modifyServer s ({ · with nextEntityId := n })))
    (hmob : ∀ id, Along R (newMob id kind l))
    (hlist : ∀ mob, Along R (modifyWorld r fun w => { w with mobs := w.mobs ++ [mob] })) :
    Along R (spawnMob r kind l) := by
  have hcome (id : UInt32) : Along R (do
      let mob ← newMob id kind l
      modifyWorld r fun w => { w with mobs := w.mobs ++ [mob] }
      return mob) :=
    (hmob id).bind fun mob => (hlist mob).bind fun _ => .pure _
  refine (along_getWorld r).bind fun _ => .guard _ (.get_bind fun realm => ?_)
  dsimp only
  split
  · exact (along_allocateEntityId _ (hnumber _)).bind hcome
  · exact (Along.pure _).bind hcome

end Realm

theorem along_entityReceiver (h : Hierarchy) (recv : Object) :
    Along (InvImage R Store.realm) (entityReceiver h recv) :=
  (along_ofExcept _).bind fun e => (along_realm (Realm.along_getEntity e)).bind fun _ => .pure _

theorem along_playerReceiver (h : Hierarchy) (recv : Object) :
    Along (InvImage R Store.realm) (playerReceiver h recv) :=
  (along_ofExcept _).bind fun r => (along_realm (Realm.along_getPlayer r)).bind fun _ => .pure _

theorem along_mobReceiver (h : Hierarchy) (recv : Object) :
    Along (InvImage R Store.realm) (mobReceiver h recv) :=
  (along_ofExcept _).bind fun r => along_realm (Realm.along_getMob r)

theorem along_serverReceiver (h : Hierarchy) (recv : Object) :
    Along (InvImage R Store.realm) (serverReceiver h recv) :=
  (along_ofExcept _).bind fun r => (along_realm (Realm.along_getServer r)).bind fun _ => .pure _

theorem along_worldReceiver (h : Hierarchy) (recv : Object) :
    Along (InvImage R Store.realm) (worldReceiver h recv) :=
  (along_ofExcept _).bind fun r => (along_realm (Realm.along_getWorld r)).bind fun _ => .pure _

theorem along_loadedWorld (r : Ref .world) : Along (InvImage R Store.realm) (loadedWorld r) :=
  (along_realm (Realm.along_getWorld r)).bind fun _ => .pure _

theorem along_fetchStack (r : Ref .stack) : Along (InvImage R Store.realm) (fetchStack r) :=
  along_realm (Realm.along_getStack r)

theorem along_fetchInventory (r : Ref .inventory) :
    Along (InvImage R Store.realm) (fetchInventory r) :=
  along_realm (Realm.along_getInventory r)

theorem along_slotArgument (h : Hierarchy) (args : List Value) (index : Nat) :
    Along (InvImage R Store.realm) (slotArgument h args index) := by
  refine (along_ofExcept _).bind fun slot => ?_
  split
  · exact .pure _
  · exact .throw _

theorem along_countItems (r : Ref .inventory) (m : Material) :
    Along (InvImage R Store.realm) (countItems r m) :=
  (along_fetchInventory r).bind fun _ => along_ask _

/-! ## Entities -/

/-- The method that moves an entity. -/
def Method.teleport : Method := entityMethods.get ⟨4, by decide⟩

theorem along_teleport (hmove : ∀ e l, Along R (Realm.teleport e l)) : Method.teleport.Along R :=
  fun h recv _ => (along_ofExcept _).bind fun _ => (along_entityReceiver h recv).bind fun _ =>
    (along_realm (hmove _ _)).bind fun _ => along_scalar _ _

theorem along_entityMethods (hhealth : ∀ e x, Along R (Realm.setHealth e x)) :
    ∀ m ∈ entityMethods, m = .teleport ∨ m.Along R := by
  simp only [entityMethods, List.forall_mem_cons]
  have hscalar (k : ScalarKind) (q : EntityRef × Entity → k.Carrier) (h : Hierarchy)
      (recv : Object) :
      Along (InvImage R Store.realm) (do Act.scalar k (q (← entityReceiver h recv))) :=
    (along_entityReceiver h recv).bind fun _ => along_scalar _ _
  refine ⟨.inr fun _ _ _ => hscalar .int _ _ _, .inr fun _ _ _ => hscalar .string _ _ _,
    .inr fun h recv _ => ?getLocation, .inr fun h recv _ => ?getWorld, .inl rfl,
    .inr fun _ _ _ => hscalar .double _ _ _, .inr fun _ _ _ => hscalar .double _ _ _,
    .inr fun h recv _ => ?setHealth, .inr fun _ _ _ => hscalar .boolean _ _ _,
    fun _ hm => by cases hm⟩
  case getLocation => exact (along_entityReceiver h recv).bind fun _ => along_new _
  case getWorld => exact (along_entityReceiver h recv).bind fun _ => along_loadedWorld _
  case setHealth =>
    exact (along_entityReceiver h recv).bind fun ⟨e, _⟩ => (along_ofExcept _).bind fun health =>
      (along_realm (hhealth e health)).bind fun _ => .pure _

/-- What a method of players changes of a player is not its base. -/
theorem along_playerMethods
    (hmodify : ∀ r f, (∀ p : Player, (f p).base = p.base) → Along R (Realm.modifyPlayer r f)) :
    ∀ m ∈ playerMethods, m.Along R := by
  simp only [playerMethods, List.forall_mem_cons]
  refine ⟨fun h recv _ => ?getGameMode, fun h recv _ => ?setGameMode, fun h recv _ => ?getLevel,
    fun h recv _ => ?setLevel, fun h recv _ => ?getInventory, fun h recv _ => ?sendMessage,
    fun h recv _ => ?getMessages, fun h recv _ => ?getAddress, fun _ hm => by cases hm⟩
  case getGameMode => exact (along_playerReceiver h recv).bind fun _ => along_new _
  case setGameMode =>
    exact (along_ofExcept _).bind fun _ => (along_playerReceiver h recv).bind fun ⟨r, _⟩ =>
      (along_realm (hmodify r _ (by exact fun _ => rfl))).bind fun _ => .pure _
  case getLevel | getAddress => exact (along_playerReceiver h recv).bind fun _ => along_scalar _ _
  case setLevel =>
    exact (along_playerReceiver h recv).bind fun ⟨r, _⟩ => (along_ofExcept _).bind fun _ =>
      (along_realm (hmodify r _ (by exact fun _ => rfl))).bind fun _ => .pure _
  case getInventory => exact (along_playerReceiver h recv).bind fun _ => .pure _
  case sendMessage =>
    exact (along_ofExcept _).bind fun _ => (along_playerReceiver h recv).bind fun ⟨r, _⟩ =>
      (along_realm (hmodify r _ (by exact fun _ => rfl))).bind fun _ => .pure _
  case getMessages =>
    exact (along_playerReceiver h recv).bind fun _ =>
      (Along.mapM (fun _ => along_scalar _ _) _).bind fun _ => along_newList _

theorem along_mobMethods : ∀ m ∈ mobMethods, m.Along R := by
  simp only [mobMethods, List.forall_mem_cons]
  refine ⟨fun h recv _ => ?getMobType, fun h recv _ => ?isHostile, fun _ _ _ => ?getCustomName,
    fun _ hm => by cases hm⟩
  case getMobType => exact (along_mobReceiver h recv).bind fun _ => along_new _
  case isHostile => exact (along_mobReceiver h recv).bind fun _ => along_scalar _ _
  case getCustomName => exact .pure _

/-! ## Stacks and inventories -/

/-- The method that sets the count of a stack. -/
def Method.setAmount : Method := itemStackMethods.get ⟨2, by decide⟩

/-- The method that puts a stack into a slot, or empties the slot. -/
def Method.setItem : Method := inventoryMethods.get ⟨2, by decide⟩

theorem along_setAmount (hmodify : ∀ r f, Along R (Realm.modifyStack r f)) :
    Method.setAmount.Along R :=
  fun _ _ _ => (along_ofExcept _).bind fun _ => (along_ofExcept _).bind fun r =>
    (along_realm (hmodify r _)).bind fun _ => .pure _

theorem along_setItem (hmodify : ∀ r f, Along R (Realm.modifyInventory r f))
    (hnew : ∀ s, Along R (Realm.newStack s)) : Method.setItem.Along R := by
  intro h recv args
  refine (along_ofExcept _).bind fun r => (along_slotArgument h args 0).bind fun slot => ?_
  have hset (stack : Slot) : Along (InvImage R Store.realm) (do
      Act.realm (Realm.modifyInventory r (·.set slot stack))
      return (none : Value)) :=
    (along_realm (hmodify r _)).bind fun _ => .pure _
  rcases args[1]?.join with _ | o
  · exact (Along.pure _).bind hset
  · exact (along_ofExcept _).bind fun s => (along_fetchStack s).bind fun _ =>
      ((along_realm (hnew _)).map _).bind hset

theorem along_itemStackMethods : ∀ m ∈ itemStackMethods, m = .setAmount ∨ m.Along R := by
  simp only [itemStackMethods, List.forall_mem_cons]
  refine ⟨.inr fun _ _ _ => (along_ofExcept _).bind fun r => ?getType,
    .inr fun _ _ _ => (along_ofExcept _).bind fun r => ?getAmount, .inl rfl,
    .inr fun _ _ _ => (along_ofExcept _).bind fun r => ?getMaxStackSize,
    .inr fun _ _ _ => (along_ofExcept _).bind fun r => (along_ofExcept _).bind fun t => ?isSimilar,
    fun _ hm => by cases hm⟩
  case getType => exact (along_fetchStack r).bind fun _ => along_new _
  case getAmount | getMaxStackSize => exact (along_fetchStack r).bind fun _ => along_scalar _ _
  case isSimilar =>
    exact (along_fetchStack r).bind fun _ => (along_fetchStack t).bind fun _ => along_scalar _ _

theorem along_inventoryMethods (hadd : ∀ r m n, Along R (Realm.addItems r m n))
    (hremove : ∀ r m n, Along R (Realm.removeItems r m n))
    (hclear : ∀ r, Along R (Realm.modifyInventory r fun _ => .empty)) :
    ∀ m ∈ inventoryMethods, m = .setItem ∨ m.Along R := by
  simp only [inventoryMethods, List.forall_mem_cons]
  have hreceiver {k : Ref .inventory → Act Value} {h : Hierarchy} {recv : Object}
      (hk : ∀ r, Along (InvImage R Store.realm) (k r)) :
      Along (InvImage R Store.realm) (inventoryReceiver h recv >>= k) :=
    (along_ofExcept _).bind hk
  refine ⟨.inr fun _ _ _ => hreceiver fun r => ?getSize,
    .inr fun h _ args => hreceiver fun r => ?getItem, .inl rfl,
    .inr fun _ _ _ => hreceiver fun r => ?addItem, .inr fun _ _ _ => hreceiver fun r => ?removeItem,
    .inr fun _ _ _ => hreceiver fun r => ?contains, .inr fun _ _ _ => hreceiver fun r => ?count,
    .inr fun _ _ _ => hreceiver fun r => ?firstEmpty, .inr fun _ _ _ => hreceiver fun r => ?isEmpty,
    .inr fun _ _ _ => hreceiver fun r => ?getContents, .inr fun _ _ _ => hreceiver fun r => ?clear,
    .inr fun _ _ _ => hreceiver fun r => ?describe, fun _ hm => by cases hm⟩
  case getSize => exact along_scalar _ _
  case getItem =>
    exact (along_slotArgument h args 0).bind fun _ => (along_fetchInventory r).bind fun _ => .pure _
  case addItem =>
    exact (along_ofExcept _).bind fun s => (along_fetchStack s).bind fun _ =>
      (along_realm (hadd r _ _)).bind fun _ => along_scalar _ _
  case removeItem =>
    exact (along_ofExcept _).bind fun m => (along_ofExcept _).bind fun _ =>
      (along_realm (hremove r m _)).bind fun _ => along_scalar _ _
  case contains | count =>
    exact (along_ofExcept _).bind fun m => (along_countItems r m).bind fun _ => along_scalar _ _
  case firstEmpty | isEmpty | describe =>
    exact (along_fetchInventory r).bind fun _ => along_scalar _ _
  case getContents => exact (along_fetchInventory r).bind fun _ => along_newListOf _
  case clear => exact (along_realm (hclear r)).bind fun _ => .pure _

/-! ## Servers and worlds -/

theorem along_serverMethods (hbroadcast : ∀ s message, Along R (Realm.broadcast s message))
    (hadvance : ∀ s ticks, Along R (Realm.advance s ticks)) :
    ∀ m ∈ serverMethods, m.Along R := by
  simp only [serverMethods, List.forall_mem_cons]
  refine ⟨fun h recv _ => ?getName, fun _ _ _ => ?getVersion, fun h recv _ => ?getMaxPlayers,
    fun h recv _ => ?getTick, fun h recv _ => ?getWorlds,
    fun h recv _ => (along_ofExcept _).bind fun _ => ?getWorld,
    fun h recv _ => (along_ofExcept _).bind fun _ => ?getPlayer,
    fun h recv _ => ?getOnlinePlayers, fun h recv _ => (along_ofExcept _).bind fun _ => ?broadcast,
    fun h recv _ => (along_ofExcept _).bind fun ticks => .guard _ ?advance,
    fun h recv _ => ?getNextEntityId, fun _ hm => by cases hm⟩
  case getVersion => exact along_scalar _ _
  case getName | getMaxPlayers | getTick | getNextEntityId =>
    exact (along_serverReceiver h recv).bind fun _ => along_scalar _ _
  case getWorlds | getOnlinePlayers =>
    exact (along_serverReceiver h recv).bind fun _ => along_newListOf _
  case getWorld | getPlayer =>
    exact (along_serverReceiver h recv).bind fun _ => (along_ask _).bind fun _ => .pure _
  case broadcast =>
    exact (along_serverReceiver h recv).bind fun ⟨r, _⟩ =>
      (along_realm (hbroadcast r _)).bind fun _ => along_scalar _ _
  case advance =>
    exact (along_serverReceiver h recv).bind fun ⟨r, _⟩ =>
      (along_realm (hadvance r _)).bind fun _ => .pure _

/-- What a method of worlds changes of a world is neither its name nor the list of its mobs nor its
    server; only spawning a mob is more than that. -/
theorem along_worldMethods
    (hmodify : ∀ r f, (∀ w : World, (f w).name = w.name ∧ (f w).mobs = w.mobs ∧
      (f w).server = w.server) → Along R (Realm.modifyWorld r f))
    (hspawn : ∀ r kind location, Along R (Realm.spawnMob r kind location)) :
    ∀ m ∈ worldMethods, m.Along R := by
  simp only [worldMethods, List.forall_mem_cons]
  refine ⟨fun h recv _ => ?getName, fun h recv _ => ?getSeed, fun h recv _ => ?getTime,
    fun h recv _ => (along_ofExcept _).bind fun _ => .guard _ ?setTime,
    fun h recv _ => ?isDayTime, fun h recv _ => ?getWeather,
    fun h recv _ => (along_ofExcept _).bind fun _ => ?setWeather,
    fun h recv _ => ?getBlockAt, fun h recv _ => ?getBlockAt', fun h recv _ => ?getHighestBlockYAt,
    fun h recv _ => ?getSpawnLocation, fun h recv _ => ?getPlayers, fun h recv _ => ?getEntities,
    fun h recv _ => ?spawnMob, fun _ hm => by cases hm⟩
  case getName | getSeed | getTime | isDayTime =>
    exact (along_worldReceiver h recv).bind fun _ => along_scalar _ _
  case getWeather | getSpawnLocation =>
    exact (along_worldReceiver h recv).bind fun _ => along_new _
  case setTime | setWeather =>
    exact (along_worldReceiver h recv).bind fun ⟨r, _⟩ =>
      (along_realm (hmodify r _ (by exact fun _ => ⟨rfl, rfl, rfl⟩))).bind fun _ => .pure _
  case getBlockAt =>
    exact (along_worldReceiver h recv).bind fun _ => (along_ofExcept _).bind fun _ =>
      (along_ofExcept _).bind fun _ => (along_ofExcept _).bind fun _ => along_new _
  case getBlockAt' =>
    refine (along_worldReceiver h recv).bind fun _ => (along_ofExcept _).bind fun l => ?_
    split
    · exact (along_ask _).bind fun _ => .throw_bind _ _
    · exact along_new _
  case getHighestBlockYAt =>
    exact (along_worldReceiver h recv).bind fun _ => (along_ofExcept _).bind fun _ =>
      (along_ofExcept _).bind fun _ => along_scalar _ _
  case getPlayers | getEntities =>
    exact (along_worldReceiver h recv).bind fun _ => (along_ask _).bind fun _ => along_newListOf _
  case spawnMob =>
    exact (along_worldReceiver h recv).bind fun ⟨r, _⟩ => (along_ofExcept _).bind fun _ =>
      (along_ofExcept _).bind fun _ => (along_realm (hspawn r _ _)).bind fun _ => .pure _

/-! ## Places -/

theorem along_locationMethods : ∀ m ∈ locationMethods, m.Along R := by
  simp only [locationMethods, List.forall_mem_cons]
  refine ⟨along_getter _ _ _ _ _, along_getter _ _ _ _ _, along_getter _ _ _ _ _,
    along_getter _ _ _ _ _, along_getter _ _ _ _ _, along_getter _ _ _ _ _,
    fun _ _ _ => (along_ofExcept _).bind fun _ => ?getWorld,
    fun _ _ _ => (along_ofExcept _).bind fun _ => ?getBlock,
    fun _ _ _ => (along_ofExcept _).bind fun _ => ?add,
    fun _ _ _ => (along_ofExcept _).bind fun _ => ?distance, fun _ hm => by cases hm⟩
  case getWorld => exact along_loadedWorld _
  case getBlock => exact along_new _
  case add =>
    exact (along_ofExcept _).bind fun _ => (along_ofExcept _).bind fun _ =>
      (along_ofExcept _).bind fun _ => along_new _
  case distance =>
    exact (along_ofExcept _).bind fun _ => (along_ask _).bind fun _ =>
      (along_ofExcept _).bind fun _ => along_scalar _ _

theorem along_blockMethods (hset : ∀ b m, Along R (Realm.setMaterial b m)) :
    ∀ m ∈ blockMethods, m.Along R := by
  simp only [blockMethods, List.forall_mem_cons]
  refine ⟨fun _ _ _ => (along_ofExcept _).bind fun _ => ?getType,
    fun _ _ _ => (along_ofExcept _).bind fun m => (along_ofExcept _).bind fun b => ?setType,
    along_getter _ _ _ _ _, along_getter _ _ _ _ _, along_getter _ _ _ _ _,
    fun _ _ _ => (along_ofExcept _).bind fun _ => ?getWorld,
    fun _ _ _ => (along_ofExcept _).bind fun _ => ?getLocation,
    fun _ _ _ => (along_ofExcept _).bind fun _ => ?getRelative,
    fun _ _ _ => (along_ofExcept _).bind fun _ => ?isEmpty, fun _ hm => by cases hm⟩
  case getType => exact (along_ask _).bind fun _ => along_new _
  case setType => exact (along_realm (hset b m)).bind fun _ => .pure _
  case getWorld => exact along_loadedWorld _
  case getLocation => exact along_new _
  case getRelative =>
    exact (along_ofExcept _).bind fun _ => (along_ofExcept _).bind fun _ =>
      (along_ofExcept _).bind fun _ => along_new _
  case isEmpty => exact (along_ask _).bind fun _ => along_scalar _ _

/-! ## All methods -/

/-- The changes that methods make of the realm, but for the three that have methods of their own, go
    along a relation. -/
structure Realm.ChangesAlong (R : Realm → Realm → Prop) : Prop where
  health : ∀ e x, Along R (Realm.setHealth e x)
  player : ∀ r f, (∀ p : Player, (f p).base = p.base) → Along R (Realm.modifyPlayer r f)
  add : ∀ r m n, Along R (Realm.addItems r m n)
  remove : ∀ r m n, Along R (Realm.removeItems r m n)
  clear : ∀ r, Along R (Realm.modifyInventory r fun _ => .empty)
  broadcast : ∀ s message, Along R (Realm.broadcast s message)
  advance : ∀ s ticks, Along R (Realm.advance s ticks)
  world : ∀ r f, (∀ w : World, (f w).name = w.name ∧ (f w).mobs = w.mobs ∧
    (f w).server = w.server) → Along R (Realm.modifyWorld r f)
  spawn : ∀ r kind l, Along R (Realm.spawnMob r kind l)
  material : ∀ b m, Along R (Realm.setMaterial b m)

/-- All methods go along a relation if the changes do, but for the three of which more is to be
    said. -/
theorem Builtin.along_methods (hR : Realm.ChangesAlong R) {b : Builtin} {m : Method}
    (hm : m ∈ b.methods) : m = .teleport ∨ m = .setAmount ∨ m = .setItem ∨ m.Along R := by
  have hplain (h : m.Along R) : m = .teleport ∨ m = .setAmount ∨ m = .setItem ∨ m.Along R :=
    .inr (.inr (.inr h))
  cases b with
  | object => exact hplain (along_objectMethods m hm)
  | enumeration => exact hplain (along_enumerationMethods m hm)
  | classObject => exact hplain (along_classMethods m hm)
  | scalar k =>
    cases k with
    | string => exact hplain (along_stringMethods m hm)
    | _ => exact absurd hm List.not_mem_nil
  | collection => exact hplain (along_collectionMethods m hm)
  | list => exact hplain (along_listMethods m hm)
  | entity => exact (along_entityMethods hR.health m hm).elim .inl hplain
  | player => exact hplain (along_playerMethods hR.player m hm)
  | mob => exact hplain (along_mobMethods m hm)
  | inventory =>
    exact (along_inventoryMethods hR.add hR.remove hR.clear m hm).elim
      (fun h => .inr (.inr (.inl h))) hplain
  | itemStack => exact (along_itemStackMethods m hm).elim (fun h => .inr (.inl h)) hplain
  | server => exact hplain (along_serverMethods hR.broadcast hR.advance m hm)
  | world => exact hplain (along_worldMethods hR.world hR.spawn m hm)
  | location => exact hplain (along_locationMethods m hm)
  | block => exact hplain (along_blockMethods hR.material m hm)
  | array | arrayList | gameMode | material | mobType | weather =>
    exact absurd hm List.not_mem_nil

end Chainwalk
