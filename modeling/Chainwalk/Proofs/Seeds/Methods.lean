import Chainwalk.Method.Catalog
import Chainwalk.Proofs.Seeds.Conversion

/-!
# Methods and disguises

Every exported method of a built-in class is blind to disguises, except for two: objects give
their texts, and the texts of lists may tell of worlds; and objects give their hash codes.

* `Builtin.blind_methods`: exported methods are blind;
* `Method.giveText_disguised_iff`, `Method.giveCode_disguised_iff`: when those that are not give the
  same all the same.
-/

namespace Chainwalk

open Method Act

variable {f : Disguise} {α : Type}

/-- A method that does not see disguises. -/
def Method.Blind (f : Disguise) (m : Method) : Prop :=
  ∀ h recv args, Chainwalk.Blind (Store.disguised f) (m.body h recv args)

theorem blind_getter (α : Type) [Viewable α] (declaring : Class) (name : String) (k : ScalarKind)
    (g : Hierarchy → α → k.Carrier) : (getter α declaring name k g).Blind f :=
  fun _ _ _ => (blind_ofExcept _).bind fun _ => blind_scalar _ _

/-! ## Plain values -/

/-- Texts are compared only of values, and these do not tell of worlds. -/
theorem equals_disguised (h : Hierarchy) (realm : Realm) (a : Object) (v : Value) :
    a.equals h (realm.disguised f) v = a.equals h realm v := by
  cases v with
  | none => rfl
  | some b =>
    have htext (o : Object) (ho : o.class_ ≠ .arrayList) :
        o.text h (realm.disguised f) = o.text h realm :=
      Object.text_disguised h f realm fun tag elements heq => ho (heq ▸ rfl)
    by_cases hc : a.class_ = b.class_
    · -- Lists are the same only if they are one and the same.
      by_cases ha : a.class_ = .arrayList
      · have hkind : (h.info .arrayList).kind = .concrete := rfl
        simp [Object.equals, ha, hkind]
      · simp only [Object.equals, htext a ha, htext b (hc ▸ ha)]
    · simp [Object.equals, hc]

/-- All methods of the root are blind, but those that give the text and the hash code. -/
theorem blind_objectMethods :
    ∀ m ∈ objectMethods, m.name ∉ ["toString", "hashCode"] → m.Blind f := by
  simp only [objectMethods, List.forall_mem_cons]
  refine ⟨fun hm => absurd (by decide) hm, fun hm => absurd (by decide) hm,
    fun _ _ _ _ => ?getClass, fun _ h recv args => ?equals, fun _ hm => by cases hm⟩
  case getClass => exact blind_new _
  case equals =>
    exact (blind_ask fun realm => equals_disguised h realm recv _).bind fun _ => blind_scalar _ _

theorem blind_enumerationMethods : ∀ m ∈ enumerationMethods, m.Blind f := by
  simp only [enumerationMethods, List.forall_mem_cons]
  refine ⟨fun _ _ _ => ?name, fun _ _ _ => ?ordinal, fun _ hm => by cases hm⟩
  all_goals exact (blind_ofExcept _).bind fun _ => blind_scalar _ _

theorem blind_classMethods : ∀ m ∈ classMethods, m.Blind f := by
  simp only [classMethods, List.forall_mem_cons]
  refine ⟨blind_getter _ _ _ _ _, blind_getter _ _ _ _ _, blind_getter _ _ _ _ _,
    blind_getter _ _ _ _ _, fun _ _ _ => (blind_ofExcept _).bind fun c => ?getInterfaces,
    fun _ _ _ => (blind_ofExcept _).bind fun c => ?getEnumConstants, fun _ hm => by cases hm⟩
  case getInterfaces => exact (Blind.mapM (fun _ => blind_new _) _).bind fun _ => blind_newList _
  case getEnumConstants =>
    split
    · exact (Blind.mapM (fun _ => blind_new _) _).bind fun _ => blind_newList _
    · exact .pure _

theorem blind_stringMethods : ∀ m ∈ stringMethods, m.Blind f := by
  simp only [stringMethods, List.forall_mem_cons]
  refine ⟨blind_getter _ _ _ _ _, blind_getter _ _ _ _ _, blind_getter _ _ _ _ _,
    blind_getter _ _ _ _ _, fun _ _ _ => (blind_ofExcept _).bind fun _ => ?charAt,
    fun _ _ _ => (blind_ofExcept _).bind fun _ => ?contains, fun _ hm => by cases hm⟩
  case charAt =>
    exact (blind_ofExcept _).bind fun _ => (blind_ofExcept _).bind fun _ => blind_scalar _ _
  case contains => exact (blind_ofExcept _).bind fun _ => blind_scalar _ _

theorem blind_collectionMethods : ∀ m ∈ collectionMethods, m.Blind f := by
  simp only [collectionMethods, List.forall_mem_cons]
  exact ⟨blind_getter _ _ _ _ _, blind_getter _ _ _ _ _, fun _ hm => by cases hm⟩

theorem blind_listMethods : ∀ m ∈ listMethods, m.Blind f := by
  simp only [listMethods, List.forall_mem_cons]
  refine ⟨fun _ _ _ => ?get, fun _ hm => by cases hm⟩
  exact (blind_ofExcept _).bind fun _ => (blind_ofExcept _).bind fun _ => blind_ofExcept _

/-! ## Entities -/

theorem blind_entityReceiver (h : Hierarchy) (recv : Object) :
    Blind (Store.disguised f) (entityReceiver h recv) :=
  (blind_ofExcept _).bind fun e => (blind_realm (Realm.blind_getEntity e)).bind fun _ => .pure _

theorem blind_playerReceiver (h : Hierarchy) (recv : Object) :
    Blind (Store.disguised f) (playerReceiver h recv) :=
  (blind_ofExcept _).bind fun r => (blind_realm (Realm.blind_getPlayer r)).bind fun _ => .pure _

theorem blind_mobReceiver (h : Hierarchy) (recv : Object) :
    Blind (Store.disguised f) (mobReceiver h recv) :=
  (blind_ofExcept _).bind fun r => blind_realm (Realm.blind_getMob r)

theorem blind_loadedWorld (r : Ref .world) : Blind (Store.disguised f) (loadedWorld r) :=
  blind_bind_getWorld r (fun _ => .pure _) fun _ _ => rfl

theorem blind_entityMethods : ∀ m ∈ entityMethods, m.Blind f := by
  simp only [entityMethods, List.forall_mem_cons]
  have hscalar (k : ScalarKind) (q : EntityRef × Entity → k.Carrier) (h : Hierarchy)
      (recv : Object) :
      Blind (Store.disguised f) (do Act.scalar k (q (← entityReceiver h recv))) :=
    (blind_entityReceiver h recv).bind fun _ => blind_scalar _ _
  refine ⟨fun _ _ _ => hscalar .int _ _ _, fun _ _ _ => hscalar .string _ _ _,
    fun h recv _ => ?getLocation, fun h recv _ => ?getWorld, fun h recv _ => ?teleport,
    fun _ _ _ => hscalar .double _ _ _, fun _ _ _ => hscalar .double _ _ _,
    fun h recv _ => ?setHealth, fun _ _ _ => hscalar .boolean _ _ _, fun _ hm => by cases hm⟩
  case getLocation => exact (blind_entityReceiver h recv).bind fun _ => blind_new _
  case getWorld => exact (blind_entityReceiver h recv).bind fun _ => blind_loadedWorld _
  case teleport =>
    exact (blind_ofExcept _).bind fun place => (blind_entityReceiver h recv).bind fun ⟨e, _⟩ =>
      (blind_realm (Realm.blind_teleport e place)).bind fun _ => blind_scalar _ _
  case setHealth =>
    exact (blind_entityReceiver h recv).bind fun ⟨e, _⟩ => (blind_ofExcept _).bind fun health =>
      (blind_realm (Realm.blind_setHealth e health)).bind fun _ => .pure _

theorem blind_playerMethods : ∀ m ∈ playerMethods, m.Blind f := by
  simp only [playerMethods, List.forall_mem_cons]
  refine ⟨fun h recv _ => ?getGameMode, fun h recv _ => ?setGameMode, fun h recv _ => ?getLevel,
    fun h recv _ => ?setLevel, fun h recv _ => ?getInventory, fun h recv _ => ?sendMessage,
    fun h recv _ => ?getMessages, fun h recv _ => ?getAddress, fun _ hm => by cases hm⟩
  case getGameMode => exact (blind_playerReceiver h recv).bind fun _ => blind_new _
  case setGameMode =>
    exact (blind_ofExcept _).bind fun _ => (blind_playerReceiver h recv).bind fun ⟨r, _⟩ =>
      (blind_realm (Realm.blind_modifyPlayer r _)).bind fun _ => .pure _
  case getLevel => exact (blind_playerReceiver h recv).bind fun _ => blind_scalar _ _
  case setLevel =>
    exact (blind_playerReceiver h recv).bind fun ⟨r, _⟩ => (blind_ofExcept _).bind fun _ =>
      (blind_realm (Realm.blind_modifyPlayer r _)).bind fun _ => .pure _
  case getInventory => exact (blind_playerReceiver h recv).bind fun _ => .pure _
  case sendMessage =>
    exact (blind_ofExcept _).bind fun _ => (blind_playerReceiver h recv).bind fun ⟨r, _⟩ =>
      (blind_realm (Realm.blind_modifyPlayer r _)).bind fun _ => .pure _
  case getMessages =>
    exact (blind_playerReceiver h recv).bind fun _ =>
      (Blind.mapM (fun _ => blind_scalar _ _) _).bind fun _ => blind_newList _
  case getAddress => exact (blind_playerReceiver h recv).bind fun _ => blind_scalar _ _

theorem blind_mobMethods : ∀ m ∈ mobMethods, m.Blind f := by
  simp only [mobMethods, List.forall_mem_cons]
  refine ⟨fun h recv _ => ?getMobType, fun h recv _ => ?isHostile, fun _ _ _ => ?getCustomName,
    fun _ hm => by cases hm⟩
  case getMobType => exact (blind_mobReceiver h recv).bind fun _ => blind_new _
  case isHostile => exact (blind_mobReceiver h recv).bind fun _ => blind_scalar _ _
  case getCustomName => exact .pure _

/-! ## Stacks and inventories -/

theorem blind_fetchStack (r : Ref .stack) : Blind (Store.disguised f) (fetchStack r) :=
  blind_realm (Realm.blind_getStack r)

theorem blind_fetchInventory (r : Ref .inventory) : Blind (Store.disguised f) (fetchInventory r) :=
  blind_realm (Realm.blind_getInventory r)

theorem blind_slotArgument (h : Hierarchy) (args : List Value) (index : Nat) :
    Blind (Store.disguised f) (slotArgument h args index) := by
  refine (blind_ofExcept _).bind fun slot => ?_
  split
  · exact .pure _
  · exact .throw _

theorem blind_countItems (r : Ref .inventory) (m : Material) :
    Blind (Store.disguised f) (countItems r m) :=
  (blind_fetchInventory r).bind fun _ => blind_ask fun _ => rfl

theorem blind_itemStackMethods : ∀ m ∈ itemStackMethods, m.Blind f := by
  simp only [itemStackMethods, List.forall_mem_cons]
  refine ⟨fun _ _ _ => (blind_ofExcept _).bind fun r => ?getType,
    fun _ _ _ => (blind_ofExcept _).bind fun r => ?getAmount,
    fun _ _ _ => (blind_ofExcept _).bind fun count => (blind_ofExcept _).bind fun r => ?setAmount,
    fun _ _ _ => (blind_ofExcept _).bind fun r => ?getMaxStackSize,
    fun _ _ _ => (blind_ofExcept _).bind fun r => (blind_ofExcept _).bind fun t => ?isSimilar,
    fun _ hm => by cases hm⟩
  case getType => exact (blind_fetchStack r).bind fun _ => blind_new _
  case getAmount => exact (blind_fetchStack r).bind fun _ => blind_scalar _ _
  case setAmount => exact (blind_realm (Realm.blind_modifyStack r _)).bind fun _ => .pure _
  case getMaxStackSize => exact (blind_fetchStack r).bind fun _ => blind_scalar _ _
  case isSimilar =>
    exact (blind_fetchStack r).bind fun _ => (blind_fetchStack t).bind fun _ => blind_scalar _ _

theorem blind_inventoryMethods : ∀ m ∈ inventoryMethods, m.Blind f := by
  simp only [inventoryMethods, List.forall_mem_cons]
  have hreceiver {k : Ref .inventory → Act Value} {h : Hierarchy} {recv : Object}
      (hk : ∀ r, Blind (Store.disguised f) (k r)) :
      Blind (Store.disguised f) (inventoryReceiver h recv >>= k) :=
    (blind_ofExcept _).bind hk
  refine ⟨fun _ _ _ => hreceiver fun r => ?getSize, fun h _ args => hreceiver fun r => ?getItem,
    fun h _ args => hreceiver fun r => ?setItem, fun _ _ _ => hreceiver fun r => ?addItem,
    fun _ _ _ => hreceiver fun r => ?removeItem, fun _ _ _ => hreceiver fun r => ?contains,
    fun _ _ _ => hreceiver fun r => ?count, fun _ _ _ => hreceiver fun r => ?firstEmpty,
    fun _ _ _ => hreceiver fun r => ?isEmpty, fun _ _ _ => hreceiver fun r => ?getContents,
    fun _ _ _ => hreceiver fun r => ?clear, fun _ _ _ => hreceiver fun r => ?describe,
    fun _ hm => by cases hm⟩
  case getSize => exact blind_scalar _ _
  case getItem =>
    exact (blind_slotArgument h args 0).bind fun _ => (blind_fetchInventory r).bind fun _ => .pure _
  case setItem =>
    have hset (slot : Nat) (stack : Slot) : Blind (Store.disguised f) (do
        Act.realm (Realm.modifyInventory r (·.set slot stack))
        return (none : Value)) :=
      (blind_realm (Realm.blind_modifyInventory r _)).bind fun _ => .pure _
    refine (blind_slotArgument h args 0).bind fun slot => ?_
    cases args[1]?.join with
    | none => exact (Blind.pure _).bind (hset slot)
    | some o =>
      exact (blind_ofExcept _).bind fun s => (blind_fetchStack s).bind fun _ =>
        ((blind_realm (Realm.blind_newStack _)).map _).bind (hset slot)
  case addItem =>
    exact (blind_ofExcept _).bind fun s => (blind_fetchStack s).bind fun _ =>
      (blind_realm (Realm.blind_addItems r _ _)).bind fun _ => blind_scalar _ _
  case removeItem =>
    exact (blind_ofExcept _).bind fun m => (blind_ofExcept _).bind fun _ =>
      (blind_realm (Realm.blind_removeItems r m _)).bind fun _ => blind_scalar _ _
  case contains | count =>
    exact (blind_ofExcept _).bind fun m => (blind_countItems r m).bind fun _ => blind_scalar _ _
  case firstEmpty | isEmpty | describe =>
    exact (blind_fetchInventory r).bind fun _ => blind_scalar _ _
  case getContents => exact (blind_fetchInventory r).bind fun _ => blind_newListOf _
  case clear => exact (blind_realm (Realm.blind_modifyInventory r _)).bind fun _ => .pure _

/-! ## Servers and worlds -/

theorem blind_serverReceiver (h : Hierarchy) (recv : Object) :
    Blind (Store.disguised f) (serverReceiver h recv) :=
  (blind_ofExcept _).bind fun r => (blind_realm (Realm.blind_getServer r)).bind fun _ => .pure _

/-- What is done with a world may not be up to its seed. -/
theorem blind_bind_worldReceiver (h : Hierarchy) (recv : Object)
    {k : Ref .world × World → Act α} (hk : ∀ r w, Blind (Store.disguised f) (k (r, w)))
    (hs : ∀ r w seed, k (r, w.withSeed seed) = k (r, w)) :
    Blind (Store.disguised f) (worldReceiver h recv >>= k) := by
  simp only [worldReceiver, bind_assoc, pure_bind]
  exact (blind_ofExcept _).bind fun r => blind_bind_getWorld r (hk r) (hs r)

theorem blind_serverMethods : ∀ m ∈ serverMethods, m.Blind f := by
  simp only [serverMethods, List.forall_mem_cons]
  refine ⟨fun h recv _ => ?getName, fun _ _ _ => ?getVersion, fun h recv _ => ?getMaxPlayers,
    fun h recv _ => ?getTick, fun h recv _ => ?getWorlds, fun h recv _ => ?getWorld,
    fun h recv _ => ?getPlayer, fun h recv _ => ?getOnlinePlayers, fun h recv _ => ?broadcast,
    fun h recv _ => ?advance, fun h recv _ => ?getNextEntityId, fun _ hm => by cases hm⟩
  case getVersion => exact blind_scalar _ _
  case getName | getMaxPlayers | getTick | getNextEntityId =>
    exact (blind_serverReceiver h recv).bind fun _ => blind_scalar _ _
  case getWorlds | getOnlinePlayers =>
    exact (blind_serverReceiver h recv).bind fun _ => blind_newListOf _
  case getWorld =>
    refine (blind_ofExcept _).bind fun name => (blind_serverReceiver h recv).bind fun ⟨r, _⟩ => ?_
    exact (blind_ask fun realm => Realm.world?_disguised f realm r name).bind fun _ => .pure _
  case getPlayer =>
    refine (blind_ofExcept _).bind fun name => (blind_serverReceiver h recv).bind fun ⟨r, _⟩ => ?_
    exact (blind_ask fun _ => rfl).bind fun _ => .pure _
  case broadcast =>
    refine (blind_ofExcept _).bind fun _ => (blind_serverReceiver h recv).bind fun ⟨r, _⟩ => ?_
    exact (blind_realm (Realm.blind_broadcast r _)).bind fun _ => blind_scalar _ _
  case advance =>
    refine (blind_ofExcept _).bind fun ticks => .guard _ ?_
    exact (blind_serverReceiver h recv).bind fun ⟨r, _⟩ =>
      (blind_realm (Realm.blind_advance r _)).bind fun _ => .pure _

/-- All exported methods of worlds are blind. The seed itself is asked for by one that is not
    exported. -/
theorem blind_worldMethods : ∀ m ∈ worldMethods, m.visibility = .exported → m.Blind f := by
  simp only [worldMethods, List.forall_mem_cons]
  refine ⟨fun _ h recv _ => ?getName, fun hm => ?getSeed, fun _ h recv _ => ?getTime,
    fun _ h recv _ => ?setTime, fun _ h recv _ => ?isDayTime, fun _ h recv _ => ?getWeather,
    fun _ h recv _ => ?setWeather, fun _ h recv _ => ?getBlockAt, fun _ h recv _ => ?getBlockAt',
    fun _ h recv _ => ?getHighestBlockYAt, fun _ h recv _ => ?getSpawnLocation,
    fun _ h recv _ => ?getPlayers, fun _ h recv _ => ?getEntities, fun _ h recv _ => ?spawnMob,
    fun _ hm => by cases hm⟩
  case getSeed => cases hm
  case getName | getTime | isDayTime =>
    exact blind_bind_worldReceiver h recv (fun _ _ => blind_scalar _ _) fun _ _ _ => rfl
  case getWeather | getSpawnLocation =>
    exact blind_bind_worldReceiver h recv (fun _ _ => blind_new _) fun _ _ _ => rfl
  case setTime =>
    refine (blind_ofExcept _).bind fun time => .guard _ ?_
    refine blind_bind_worldReceiver h recv (fun r _ => ?_) fun _ _ _ => rfl
    exact (blind_realm (Realm.blind_modifyWorld r fun _ _ => rfl)).bind fun _ => .pure _
  case setWeather =>
    refine (blind_ofExcept _).bind fun weather => ?_
    refine blind_bind_worldReceiver h recv (fun r _ => ?_) fun _ _ _ => rfl
    exact (blind_realm (Realm.blind_modifyWorld r fun _ _ => rfl)).bind fun _ => .pure _
  case getBlockAt =>
    refine blind_bind_worldReceiver h recv (fun r _ => ?_) fun _ _ _ => rfl
    exact (blind_ofExcept _).bind fun _ => (blind_ofExcept _).bind fun _ =>
      (blind_ofExcept _).bind fun _ => blind_new _
  case getBlockAt' =>
    refine blind_bind_worldReceiver h recv (fun r _ => (blind_ofExcept _).bind fun l => ?_)
      fun _ _ _ => rfl
    split
    · exact (blind_ask fun realm => Realm.worldName_disguised f realm _).bind fun _ =>
        (Blind.throw _).bind fun _ => blind_new _
    · exact blind_new _
  case getHighestBlockYAt =>
    refine blind_bind_worldReceiver h recv (fun r _ => ?_) fun _ _ _ => rfl
    exact (blind_ofExcept _).bind fun _ => (blind_ofExcept _).bind fun _ => blind_scalar _ _
  case getPlayers | getEntities =>
    refine blind_bind_worldReceiver h recv (fun r _ => ?_) fun _ _ _ => rfl
    exact (blind_ask fun realm => Realm.playersIn_disguised f realm r).bind fun _ =>
      blind_newListOf _
  case spawnMob =>
    refine blind_bind_worldReceiver h recv (fun r _ => ?_) fun _ _ _ => rfl
    exact (blind_ofExcept _).bind fun _ => (blind_ofExcept _).bind fun _ =>
      (blind_realm (Realm.blind_spawnMob r _ _)).bind fun _ => .pure _

/-! ## Places -/

theorem blind_locationMethods : ∀ m ∈ locationMethods, m.Blind f := by
  simp only [locationMethods, List.forall_mem_cons]
  refine ⟨blind_getter _ _ _ _ _, blind_getter _ _ _ _ _, blind_getter _ _ _ _ _,
    blind_getter _ _ _ _ _, blind_getter _ _ _ _ _, blind_getter _ _ _ _ _,
    fun _ _ _ => (blind_ofExcept _).bind fun l => ?getWorld,
    fun _ _ _ => (blind_ofExcept _).bind fun l => ?getBlock,
    fun _ _ _ => (blind_ofExcept _).bind fun l => ?add,
    fun _ _ _ => (blind_ofExcept _).bind fun l => ?distance, fun _ hm => by cases hm⟩
  case getWorld => exact blind_loadedWorld _
  case getBlock => exact blind_new _
  case add =>
    exact (blind_ofExcept _).bind fun _ => (blind_ofExcept _).bind fun _ =>
      (blind_ofExcept _).bind fun _ => blind_new _
  case distance =>
    refine (blind_ofExcept _).bind fun k => ?_
    exact (blind_ask fun realm => Realm.distance_disguised f realm l k).bind fun _ =>
      (blind_ofExcept _).bind fun _ => blind_scalar _ _

theorem blind_blockMethods : ∀ m ∈ blockMethods, m.Blind f := by
  simp only [blockMethods, List.forall_mem_cons]
  refine ⟨fun _ _ _ => (blind_ofExcept _).bind fun b => ?getType,
    fun _ _ _ => (blind_ofExcept _).bind fun m => (blind_ofExcept _).bind fun b => ?setType,
    blind_getter _ _ _ _ _, blind_getter _ _ _ _ _, blind_getter _ _ _ _ _,
    fun _ _ _ => (blind_ofExcept _).bind fun b => ?getWorld,
    fun _ _ _ => (blind_ofExcept _).bind fun b => ?getLocation,
    fun _ _ _ => (blind_ofExcept _).bind fun b => ?getRelative,
    fun _ _ _ => (blind_ofExcept _).bind fun b => ?isEmpty, fun _ hm => by cases hm⟩
  case getType =>
    exact (blind_ask fun realm => Realm.material_disguised f realm b).bind fun _ => blind_new _
  case setType => exact (blind_realm (Realm.blind_setMaterial b m)).bind fun _ => .pure _
  case getWorld => exact blind_loadedWorld _
  case getLocation => exact blind_new _
  case getRelative =>
    exact (blind_ofExcept _).bind fun _ => (blind_ofExcept _).bind fun _ =>
      (blind_ofExcept _).bind fun _ => blind_new _
  case isEmpty =>
    exact (blind_ask fun realm => Realm.material_disguised f realm b).bind fun _ => blind_scalar _ _

/-! ## The catalog -/

/-- The method by which objects give their texts. -/
def Method.giveText : Method :=
  declare .object "toString" [] (some .string) fun h recv _ => do
    Act.scalar .string (← Act.ask (recv.text h ·))

/-- The method by which objects give their hash codes. -/
def Method.giveCode : Method :=
  declare .object "hashCode" [] (some .int) fun _ recv _ => do
    Act.scalar .int (← Act.code recv)

theorem Builtin.name_not_mem {b : Builtin} (hb : b ≠ .object) :
    ∀ m ∈ b.methods, m.name ∉ ["toString", "hashCode"] := by
  cases b with
  | object => exact absurd rfl hb
  | scalar k => cases k <;> decide
  | array k => exact fun _ hm => by cases hm
  | _ => decide

/-- There are no other methods of these names. -/
theorem Builtin.eq_of_name {b : Builtin} {m n : Method} (hm : m ∈ b.methods)
    (hn : n ∈ [giveText, giveCode]) (hname : m.name = n.name) : m = n := by
  by_cases hb : b = .object
  · subst hb
    have hnodup : (objectMethods.map Method.name).Nodup := by decide
    exact List.inj_on_of_nodup_map hnodup hm (List.mem_of_mem_take (i := 2) hn) hname
  · have hmem : n.name ∈ [giveText, giveCode].map Method.name := List.mem_map_of_mem hn
    exact absurd (hname ▸ hmem) (name_not_mem hb m hm)

/-- An exported method is blind, unless it gives the text or the hash code. -/
theorem Builtin.blind_methods {b : Builtin} {m : Method} (hm : m ∈ b.methods)
    (hv : m.visibility = .exported) (hname : m.name ∉ ["toString", "hashCode"]) : m.Blind f := by
  cases b with
  | object => exact blind_objectMethods m hm hname
  | enumeration => exact blind_enumerationMethods m hm
  | classObject => exact blind_classMethods m hm
  | scalar k =>
    cases k with
    | string => exact blind_stringMethods m hm
    | _ => cases hm
  | collection => exact blind_collectionMethods m hm
  | list => exact blind_listMethods m hm
  | entity => exact blind_entityMethods m hm
  | player => exact blind_playerMethods m hm
  | mob => exact blind_mobMethods m hm
  | inventory => exact blind_inventoryMethods m hm
  | itemStack => exact blind_itemStackMethods m hm
  | server => exact blind_serverMethods m hm
  | world => exact blind_worldMethods m hm hv
  | location => exact blind_locationMethods m hm
  | block => exact blind_blockMethods m hm
  | array | arrayList | gameMode | material | mobType | weather => cases hm

/-- The text of an object is given as a new value, whatever it is. -/
theorem Method.run_giveText (h : Hierarchy) (recv : Object) (args : List Value) (s : Store) :
    giveText.body h recv args s =
      (.ok (some (.value s.supply (.scalar .string (recv.text h s.realm)))),
        { s with supply := s.supply + 1 }) := rfl

/-- The text is the same in disguise exactly if the worlds are that it tells of. -/
theorem Method.giveText_disguised_iff (h : Hierarchy) (recv : Object) (args : List Value)
    (s : Store) :
    (giveText.body h recv args (s.disguised f)).1 = (giveText.body h recv args s).1 ↔
      ∀ r ∈ recv.told s.realm, s.realm.Keeps f r := by
  rw [← Object.text_disguised_iff h f s.realm recv, run_giveText, run_giveText]
  simp [Store.disguised]

/-- The hash code of an object is given as a new value, whatever it is. -/
theorem Method.run_giveCode (h : Hierarchy) (recv : Object) (args : List Value) (s : Store) :
    giveCode.body h recv args s =
      (.ok (some (.value s.supply (.scalar .int (s.codes recv.identity)))),
        { s with supply := s.supply + 1 }) := rfl

theorem Method.giveCode_disguised_iff (h : Hierarchy) (recv : Object) (args : List Value)
    (s : Store) :
    (giveCode.body h recv args (s.disguised f)).1 = (giveCode.body h recv args s).1 ↔
      f.codes recv.identity = s.codes recv.identity := by
  rw [run_giveCode, run_giveCode]
  simp [Store.disguised]

end Chainwalk
