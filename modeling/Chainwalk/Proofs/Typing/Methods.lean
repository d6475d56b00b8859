import Chainwalk.Method.Catalog
import Chainwalk.Proofs.Typing.Views

/-!
# Methods and classes

The methods of the catalog keep to what they declare. Called with objects of the library's own
making that are of the declared classes, they never fail because one of these does not show itself
as what the body asks for, and what they give is of the declared class of the result.

* `Method.Sound`: a method that keeps to what it declares;
* `Builtin.sound_methods`: every method of the catalog does.
-/

namespace Chainwalk

open Method Act

/-- A method that keeps to what it declares. -/
def Method.Sound (m : Method) : Prop :=
  ∀ h recv args, m.Admits h recv args → Safe (h.FitsResult m.returns) (m.body h recv args)

variable {h : Hierarchy} {m : Method} {recv : Object} {args : List Value}

theorem sound_getter {α : Type} [Viewable α] {b : Builtin} (hs : ShownAs α b) (name : String)
    (k : ScalarKind) (f : Hierarchy → α → k.Carrier) :
    (getter α (.builtin b) name k f).Sound :=
  fun _ _ _ hm => (safe_receiver hs hm rfl).bind fun _ _ => safe_scalar _ _

/-! ## Plain values -/

theorem sound_objectMethods : ∀ m ∈ objectMethods, m.Sound := by
  simp only [objectMethods, List.forall_mem_cons]
  refine ⟨fun _ _ _ _ => ?toString, fun _ _ _ _ => ?hashCode, fun h _ _ _ => ?getClass,
    fun _ _ _ _ => ?equals, fun _ hm => by cases hm⟩
  case toString | equals => exact (safe_ask _).bind fun _ _ => safe_scalar _ _
  case hashCode => exact (safe_code _).bind fun _ _ => safe_scalar _ _
  case getClass => exact safe_new (h.isA_self _)

/-- A receiver of the class of enumerations is a constant. -/
theorem safe_constantReceiver (hm : m.Admits h recv args) (hc : m.declaring = .enumeration) :
    Safe (fun _ => True) (Act.ofExcept (constantReceiver recv)) := by
  obtain ⟨k, hk⟩ := Object.exists_constant? hm.receiver_own (hc ▸ hm.receiver_isA)
  refine safe_ofExcept (fun _ _ => trivial) fun fault hf => ?_
  rw [constantReceiver, hk] at hf
  cases hf

theorem sound_enumerationMethods : ∀ m ∈ enumerationMethods, m.Sound := by
  simp only [enumerationMethods, List.forall_mem_cons]
  refine ⟨fun _ _ _ hm => ?name, fun _ _ _ hm => ?ordinal, fun _ hm => by cases hm⟩
  all_goals exact (safe_constantReceiver hm rfl).bind fun _ _ => safe_scalar _ _

theorem sound_classMethods : ∀ m ∈ classMethods, m.Sound := by
  simp only [classMethods, List.forall_mem_cons]
  refine ⟨sound_getter .classObject _ _ _, sound_getter .classObject _ _ _,
    sound_getter .classObject _ _ _, sound_getter .classObject _ _ _,
    fun _ _ _ hm => (safe_receiver .classObject hm rfl).bind fun c _ => ?getInterfaces,
    fun _ _ _ hm => (safe_receiver .classObject hm rfl).bind fun c _ => ?getEnumConstants,
    fun _ hm => by cases hm⟩
  case getInterfaces => exact safe_newListEach _ _
  case getEnumConstants =>
    split
    · exact safe_newListEach _ _
    · exact safe_null

/-- A place outside of a list is told from a view. -/
theorem safe_elementAt {α : Type} {P : α → Prop} (hP : ∀ a, P a) (items : List α) (index : Int32) :
    Safe P (Act.ofExcept (elementAt items index)) := by
  refine safe_ofExcept (fun a _ => hP a) fun fault hf => ?_
  rw [elementAt] at hf
  split at hf
  · cases hf; rfl
  · split at hf <;> cases hf
    rfl

theorem sound_stringMethods : ∀ m ∈ stringMethods, m.Sound := by
  simp only [stringMethods, List.forall_mem_cons]
  refine ⟨sound_getter .string _ _ _, sound_getter .string _ _ _, sound_getter .string _ _ _,
    sound_getter .string _ _ _,
    fun _ _ _ hm => (safe_receiver .string hm rfl).bind fun _ _ => ?charAt,
    fun _ _ _ hm => (safe_receiver .string hm rfl).bind fun _ _ => ?contains,
    fun _ hm => by cases hm⟩
  case charAt =>
    exact (safe_argument .int hm rfl).bind fun _ _ =>
      (safe_elementAt (fun _ => trivial) _ _).bind fun _ _ => safe_scalar _ _
  case contains => exact (safe_argument .string hm rfl).bind fun _ _ => safe_scalar _ _

theorem sound_collectionMethods : ∀ m ∈ collectionMethods, m.Sound := by
  simp only [collectionMethods, List.forall_mem_cons]
  exact ⟨sound_getter .collection _ _ _, sound_getter .collection _ _ _, fun _ hm => by cases hm⟩

theorem sound_listMethods : ∀ m ∈ listMethods, m.Sound := by
  simp only [listMethods, List.forall_mem_cons]
  refine ⟨fun h _ _ hm => ?get, fun _ hm => by cases hm⟩
  -- Whatever the elements are, they are objects.
  exact (safe_receiver .list hm rfl).bind fun _ _ => (safe_argument .int hm rfl).bind fun _ _ =>
    safe_elementAt (fun _ _ _ => h.isA_object _) _ _

/-! ## Entities -/

theorem safe_entityReceiver (hm : m.Admits h recv args) (hc : m.declaring = .entity) :
    Safe (fun _ => True) (entityReceiver h recv) :=
  (safe_receiver .entity hm hc).bind fun _ _ => (safe_realm _).bind fun _ _ => .pure trivial

theorem safe_playerReceiver (hm : m.Admits h recv args) (hc : m.declaring = .player) :
    Safe (fun _ => True) (playerReceiver h recv) :=
  (safe_receiver .player hm hc).bind fun _ _ => (safe_realm _).bind fun _ _ => .pure trivial

theorem safe_mobReceiver (hm : m.Admits h recv args) (hc : m.declaring = .mob) :
    Safe (fun _ => True) (mobReceiver h recv) :=
  (safe_receiver .mob hm hc).bind fun _ _ => safe_realm _

theorem safe_loadedWorld (r : Ref .world) : Safe (h.FitsResult (some .world)) (loadedWorld r) :=
  (safe_realm _).bind fun _ _ => .pure (h.fits_some.2 (h.isA_self _))

/-- A change of the realm that a method without result makes. -/
theorem safe_change {α : Type} (change : RealmM α) :
    Safe (h.FitsResult none) (do let _ ← Act.realm change; return (none : Value)) :=
  (safe_realm change).bind fun _ _ => safe_null

theorem sound_entityMethods : ∀ m ∈ entityMethods, m.Sound := by
  simp only [entityMethods, List.forall_mem_cons]
  refine ⟨fun _ _ _ hm => ?getEntityId, fun _ _ _ hm => ?getName, fun h _ _ hm => ?getLocation,
    fun _ _ _ hm => ?getWorld, fun _ _ _ hm => ?teleport, fun _ _ _ hm => ?getHealth,
    fun _ _ _ hm => ?getMaxHealth, fun _ _ _ hm => ?setHealth, fun _ _ _ hm => ?isDead,
    fun _ hm => by cases hm⟩
  case getEntityId | getName | getHealth | getMaxHealth | isDead =>
    exact (safe_entityReceiver hm rfl).bind fun _ _ => safe_scalar _ _
  case getLocation =>
    exact (safe_entityReceiver hm rfl).bind fun _ _ => safe_new (h.isA_self _)
  case getWorld => exact (safe_entityReceiver hm rfl).bind fun _ _ => safe_loadedWorld _
  case teleport =>
    exact (safe_argument .location hm rfl).bind fun _ _ => (safe_entityReceiver hm rfl).bind
      fun _ _ => (safe_realm _).bind fun _ _ => safe_scalar _ _
  case setHealth =>
    exact (safe_entityReceiver hm rfl).bind fun _ _ => (safe_argument .double hm rfl).bind
      fun _ _ => safe_change _

theorem sound_playerMethods : ∀ m ∈ playerMethods, m.Sound := by
  simp only [playerMethods, List.forall_mem_cons]
  refine ⟨fun h _ _ hm => ?getGameMode, fun _ _ _ hm => ?setGameMode, fun _ _ _ hm => ?getLevel,
    fun _ _ _ hm => ?setLevel, fun h _ _ hm => ?getInventory, fun _ _ _ hm => ?sendMessage,
    fun _ _ _ hm => ?getMessages, fun _ _ _ hm => ?getAddress, fun _ hm => by cases hm⟩
  case getGameMode =>
    exact (safe_playerReceiver hm rfl).bind fun _ _ => safe_new (h.isA_self _)
  case setGameMode =>
    exact (safe_argument .gameMode hm rfl).bind fun _ _ => (safe_playerReceiver hm rfl).bind
      fun _ _ => safe_change _
  case getLevel | getAddress =>
    exact (safe_playerReceiver hm rfl).bind fun _ _ => safe_scalar _ _
  case setLevel =>
    exact (safe_playerReceiver hm rfl).bind fun _ _ => (safe_argument .int hm rfl).bind
      fun _ _ => safe_change _
  case getInventory =>
    exact (safe_playerReceiver hm rfl).bind fun _ _ => .pure (h.fits_some.2 (h.isA_self _))
  case sendMessage =>
    exact (safe_argument .string hm rfl).bind fun _ _ => (safe_playerReceiver hm rfl).bind
      fun _ _ => safe_change _
  case getMessages =>
    exact (safe_playerReceiver hm rfl).bind fun _ _ => safe_newListEach _ _

theorem sound_mobMethods : ∀ m ∈ mobMethods, m.Sound := by
  simp only [mobMethods, List.forall_mem_cons]
  refine ⟨fun h _ _ hm => ?getMobType, fun _ _ _ hm => ?isHostile, fun _ _ _ _ => ?getCustomName,
    fun _ hm => by cases hm⟩
  case getMobType => exact (safe_mobReceiver hm rfl).bind fun _ _ => safe_new (h.isA_self _)
  case isHostile => exact (safe_mobReceiver hm rfl).bind fun _ _ => safe_scalar _ _
  -- The name is always null, whatever the receiver.
  case getCustomName => exact safe_null

/-! ## Stacks and inventories -/

theorem safe_stackReceiver (hm : m.Admits h recv args) (hc : m.declaring = .itemStack) :
    Safe (fun _ => True) (stackReceiver h recv) :=
  safe_receiver .itemStack hm hc

theorem safe_inventoryReceiver (hm : m.Admits h recv args) (hc : m.declaring = .inventory) :
    Safe (fun _ => True) (inventoryReceiver h recv) :=
  safe_receiver .inventory hm hc

theorem safe_fetchStack (r : Ref .stack) : Safe (fun _ => True) (fetchStack r) := safe_realm _

theorem safe_fetchInventory (r : Ref .inventory) : Safe (fun _ => True) (fetchInventory r) :=
  safe_realm _

theorem safe_slotArgument (hm : m.Admits h recv args) {index : Nat}
    (hc : m.params[index]? = some .int) : Safe (fun _ => True) (slotArgument h args index) := by
  refine (safe_argument .int hm hc).bind fun slot _ => ?_
  split
  · exact .pure trivial
  · exact .throw rfl

theorem safe_countItems (r : Ref .inventory) (m : Material) :
    Safe (fun _ => True) (countItems r m) :=
  (safe_fetchInventory r).bind fun _ _ => safe_ask _

theorem sound_itemStackMethods : ∀ m ∈ itemStackMethods, m.Sound := by
  simp only [itemStackMethods, List.forall_mem_cons]
  refine ⟨fun h _ _ hm => ?getType, fun _ _ _ hm => ?getAmount, fun _ _ _ hm => ?setAmount,
    fun _ _ _ hm => ?getMaxStackSize, fun _ _ _ hm => ?isSimilar, fun _ hm => by cases hm⟩
  case getType =>
    exact (safe_stackReceiver hm rfl).bind fun r _ => (safe_fetchStack r).bind fun _ _ =>
      safe_new (h.isA_self _)
  case getAmount | getMaxStackSize =>
    exact (safe_stackReceiver hm rfl).bind fun r _ => (safe_fetchStack r).bind fun _ _ =>
      safe_scalar _ _
  case setAmount =>
    exact (safe_argument .int hm rfl).bind fun _ _ => (safe_stackReceiver hm rfl).bind
      fun _ _ => safe_change _
  case isSimilar =>
    exact (safe_stackReceiver hm rfl).bind fun r _ => (safe_argument .itemStack hm rfl).bind
      fun t _ => (safe_fetchStack r).bind fun _ _ => (safe_fetchStack t).bind fun _ _ =>
        safe_scalar _ _

theorem sound_inventoryMethods : ∀ m ∈ inventoryMethods, m.Sound := by
  simp only [inventoryMethods, List.forall_mem_cons]
  refine ⟨fun _ _ _ hm => (safe_inventoryReceiver hm rfl).bind fun r _ => ?getSize,
    fun h _ _ hm => (safe_inventoryReceiver hm rfl).bind fun r _ => ?getItem,
    fun h _ args hm => (safe_inventoryReceiver hm rfl).bind fun r _ => ?setItem,
    fun _ _ _ hm => (safe_inventoryReceiver hm rfl).bind fun r _ => ?addItem,
    fun _ _ _ hm => (safe_inventoryReceiver hm rfl).bind fun r _ => ?removeItem,
    fun _ _ _ hm => (safe_inventoryReceiver hm rfl).bind fun r _ => ?contains,
    fun _ _ _ hm => (safe_inventoryReceiver hm rfl).bind fun r _ => ?count,
    fun _ _ _ hm => (safe_inventoryReceiver hm rfl).bind fun r _ => ?firstEmpty,
    fun _ _ _ hm => (safe_inventoryReceiver hm rfl).bind fun r _ => ?isEmpty,
    fun _ _ _ hm => (safe_inventoryReceiver hm rfl).bind fun r _ => ?getContents,
    fun _ _ _ hm => (safe_inventoryReceiver hm rfl).bind fun r _ => ?clear,
    fun _ _ _ hm => (safe_inventoryReceiver hm rfl).bind fun r _ => ?describe,
    fun _ hm => by cases hm⟩
  case getSize => exact safe_scalar _ _
  case getItem =>
    refine (safe_slotArgument hm rfl).bind fun _ _ => (safe_fetchInventory r).bind fun _ _ => ?_
    exact .pure (Hierarchy.fits_map (f := .stack) (fun _ => h.isA_self .itemStack) _)
  case setItem =>
    refine (safe_slotArgument hm rfl).bind fun slot _ => ?_
    -- Null empties the slot, so it is not asked for a view.
    cases args[1]?.join with
    | none => exact (Safe.pure (P := fun _ => True) trivial).bind fun _ _ => safe_change _
    | some o =>
      exact (safe_argument .itemStack hm rfl).bind fun s _ => (safe_fetchStack s).bind fun _ _ =>
        ((safe_realm _).map _).bind fun _ _ => safe_change _
  case addItem =>
    exact (safe_argument .itemStack hm rfl).bind fun s _ => (safe_fetchStack s).bind fun _ _ =>
      (safe_realm _).bind fun _ _ => safe_scalar _ _
  case removeItem =>
    exact (safe_argument .material hm rfl).bind fun _ _ => (safe_argument .int hm rfl).bind
      fun _ _ => (safe_realm _).bind fun _ _ => safe_scalar _ _
  case contains | count =>
    exact (safe_argument .material hm rfl).bind fun m _ => (safe_countItems r m).bind fun _ _ =>
      safe_scalar _ _
  case firstEmpty | isEmpty | describe =>
    exact (safe_fetchInventory r).bind fun _ _ => safe_scalar _ _
  case getContents => exact (safe_fetchInventory r).bind fun _ _ => safe_newList _
  case clear => exact safe_change _

/-! ## Servers and worlds -/

theorem safe_serverReceiver (hm : m.Admits h recv args) (hc : m.declaring = .server) :
    Safe (fun _ => True) (serverReceiver h recv) :=
  (safe_receiver .server hm hc).bind fun _ _ => (safe_realm _).bind fun _ _ => .pure trivial

theorem safe_worldReceiver (hm : m.Admits h recv args) (hc : m.declaring = .world) :
    Safe (fun _ => True) (worldReceiver h recv) :=
  (safe_receiver .world hm hc).bind fun _ _ => (safe_realm _).bind fun _ _ => .pure trivial

theorem sound_serverMethods : ∀ m ∈ serverMethods, m.Sound := by
  simp only [serverMethods, List.forall_mem_cons]
  refine ⟨fun _ _ _ hm => ?getName, fun _ _ _ _ => ?getVersion, fun _ _ _ hm => ?getMaxPlayers,
    fun _ _ _ hm => ?getTick, fun _ _ _ hm => ?getWorlds, fun h _ _ hm => ?getWorld,
    fun h _ _ hm => ?getPlayer, fun _ _ _ hm => ?getOnlinePlayers, fun _ _ _ hm => ?broadcast,
    fun _ _ _ hm => ?advance, fun _ _ _ hm => ?getNextEntityId, fun _ hm => by cases hm⟩
  case getVersion => exact safe_scalar _ _
  case getName | getMaxPlayers | getTick | getNextEntityId =>
    exact (safe_serverReceiver hm rfl).bind fun _ _ => safe_scalar _ _
  case getWorlds | getOnlinePlayers =>
    exact (safe_serverReceiver hm rfl).bind fun _ _ => safe_newList _
  case getWorld =>
    refine (safe_argument .string hm rfl).bind fun _ _ => (safe_serverReceiver hm rfl).bind
      fun _ _ => (safe_ask _).bind fun _ _ => ?_
    exact .pure (Hierarchy.fits_map (f := .world) (fun _ => h.isA_self .world) _)
  case getPlayer =>
    refine (safe_argument .string hm rfl).bind fun _ _ => (safe_serverReceiver hm rfl).bind
      fun _ _ => (safe_ask _).bind fun _ _ => ?_
    exact .pure (Hierarchy.fits_map (f := .player) (fun _ => h.isA_self .player) _)
  case broadcast =>
    exact (safe_argument .string hm rfl).bind fun _ _ => (safe_serverReceiver hm rfl).bind
      fun _ _ => (safe_realm _).bind fun _ _ => safe_scalar _ _
  case advance =>
    refine (safe_argument .long hm rfl).bind fun _ _ => .guard rfl ?_
    exact (safe_serverReceiver hm rfl).bind fun _ _ => safe_change _

theorem sound_worldMethods : ∀ m ∈ worldMethods, m.Sound := by
  simp only [worldMethods, List.forall_mem_cons]
  refine ⟨fun _ _ _ hm => ?getName, fun _ _ _ hm => ?getSeed, fun _ _ _ hm => ?getTime,
    fun _ _ _ hm => ?setTime, fun _ _ _ hm => ?isDayTime, fun h _ _ hm => ?getWeather,
    fun _ _ _ hm => ?setWeather, fun h _ _ hm => ?getBlockAt, fun h _ _ hm => ?getBlockAt',
    fun _ _ _ hm => ?getHighestBlockYAt, fun h _ _ hm => ?getSpawnLocation,
    fun _ _ _ hm => ?getPlayers, fun _ _ _ hm => ?getEntities, fun h _ _ hm => ?spawnMob,
    fun _ hm => by cases hm⟩
  case getName | getSeed | getTime | isDayTime =>
    exact (safe_worldReceiver hm rfl).bind fun _ _ => safe_scalar _ _
  case getWeather | getSpawnLocation =>
    exact (safe_worldReceiver hm rfl).bind fun _ _ => safe_new (h.isA_self _)
  case setTime =>
    refine (safe_argument .long hm rfl).bind fun _ _ => .guard rfl ?_
    exact (safe_worldReceiver hm rfl).bind fun _ _ => safe_change _
  case setWeather =>
    exact (safe_argument .weather hm rfl).bind fun _ _ => (safe_worldReceiver hm rfl).bind
      fun _ _ => safe_change _
  case getBlockAt =>
    exact (safe_worldReceiver hm rfl).bind fun _ _ => (safe_argument .int hm rfl).bind fun _ _ =>
      (safe_argument .int hm rfl).bind fun _ _ => (safe_argument .int hm rfl).bind fun _ _ =>
        safe_new (h.isA_self _)
  case getBlockAt' =>
    refine (safe_worldReceiver hm rfl).bind fun _ _ =>
      (safe_argument .location hm rfl).bind fun l _ => ?_
    -- A location in another world is refused by the name of that world.
    split
    · exact (safe_ask _).bind fun _ _ => (Safe.throw (P := fun _ => True) rfl).bind fun _ _ =>
        safe_new (h.isA_self _)
    · exact safe_new (h.isA_self _)
  case getHighestBlockYAt =>
    exact (safe_worldReceiver hm rfl).bind fun _ _ => (safe_argument .int hm rfl).bind fun _ _ =>
      (safe_argument .int hm rfl).bind fun _ _ => safe_scalar _ _
  case getPlayers | getEntities =>
    exact (safe_worldReceiver hm rfl).bind fun _ _ => (safe_ask _).bind fun _ _ => safe_newList _
  case spawnMob =>
    exact (safe_worldReceiver hm rfl).bind fun _ _ => (safe_argument .mobType hm rfl).bind
      fun _ _ => (safe_argument .location hm rfl).bind fun _ _ => (safe_realm _).bind fun _ _ =>
        .pure (h.fits_some.2 (h.isA_self _))

/-! ## Places -/

theorem sound_locationMethods : ∀ m ∈ locationMethods, m.Sound := by
  simp only [locationMethods, List.forall_mem_cons]
  refine ⟨sound_getter .location _ _ _, sound_getter .location _ _ _, sound_getter .location _ _ _,
    sound_getter .location _ _ _, sound_getter .location _ _ _, sound_getter .location _ _ _,
    fun _ _ _ hm => (safe_receiver .location hm rfl).bind fun l _ => ?getWorld,
    fun h _ _ hm => (safe_receiver .location hm rfl).bind fun l _ => ?getBlock,
    fun h _ _ hm => (safe_receiver .location hm rfl).bind fun l _ => ?add,
    fun _ _ _ hm => (safe_receiver .location hm rfl).bind fun l _ => ?distance,
    fun _ hm => by cases hm⟩
  case getWorld => exact safe_loadedWorld _
  case getBlock => exact safe_new (h.isA_self _)
  case add =>
    exact (safe_argument .double hm rfl).bind fun _ _ => (safe_argument .double hm rfl).bind
      fun _ _ => (safe_argument .double hm rfl).bind fun _ _ => safe_new (h.isA_self _)
  case distance =>
    refine (safe_argument .location hm rfl).bind fun k _ => (safe_ask _).bind fun d _ => ?_
    exact (safe_refusal d).bind fun _ _ => safe_scalar _ _

theorem sound_blockMethods : ∀ m ∈ blockMethods, m.Sound := by
  simp only [blockMethods, List.forall_mem_cons]
  refine ⟨fun h _ _ hm => ?getType, fun _ _ _ hm => ?setType, sound_getter .block _ _ _,
    sound_getter .block _ _ _, sound_getter .block _ _ _, fun _ _ _ hm => ?getWorld,
    fun h _ _ hm => ?getLocation, fun h _ _ hm => ?getRelative, fun _ _ _ hm => ?isEmpty,
    fun _ hm => by cases hm⟩
  case getType =>
    exact (safe_receiver .block hm rfl).bind fun _ _ => (safe_ask _).bind fun _ _ =>
      safe_new (h.isA_self _)
  case setType =>
    exact (safe_argument .material hm rfl).bind fun _ _ => (safe_receiver .block hm rfl).bind
      fun _ _ => safe_change _
  case getWorld => exact (safe_receiver .block hm rfl).bind fun _ _ => safe_loadedWorld _
  case getLocation => exact (safe_receiver .block hm rfl).bind fun _ _ => safe_new (h.isA_self _)
  case getRelative =>
    exact (safe_receiver .block hm rfl).bind fun _ _ => (safe_argument .int hm rfl).bind
      fun _ _ => (safe_argument .int hm rfl).bind fun _ _ => (safe_argument .int hm rfl).bind
        fun _ _ => safe_new (h.isA_self _)
  case isEmpty =>
    exact (safe_receiver .block hm rfl).bind fun _ _ => (safe_ask _).bind fun _ _ =>
      safe_scalar _ _

/-! ## The catalog -/

namespace Builtin

/-- Every method of the catalog keeps to what it declares. -/
theorem sound_of_mem_methods {b : Builtin} {m : Method} (hm : m ∈ b.methods) : m.Sound := by
  cases b with
  | object => exact sound_objectMethods m hm
  | enumeration => exact sound_enumerationMethods m hm
  | classObject => exact sound_classMethods m hm
  | scalar k =>
    cases k with
    | string => exact sound_stringMethods m hm
    | _ => cases hm
  | collection => exact sound_collectionMethods m hm
  | list => exact sound_listMethods m hm
  | entity => exact sound_entityMethods m hm
  | player => exact sound_playerMethods m hm
  | mob => exact sound_mobMethods m hm
  | inventory => exact sound_inventoryMethods m hm
  | itemStack => exact sound_itemStackMethods m hm
  | server => exact sound_serverMethods m hm
  | world => exact sound_worldMethods m hm
  | location => exact sound_locationMethods m hm
  | block => exact sound_blockMethods m hm
  | array | arrayList | gameMode | material | mobType | weather => cases hm

/-- A method of the catalog that is called with objects of the library's own making, of the classes
    that it declares, does not fail for a view, whatever the state of the realm; and what it gives
    is null or of the class that it declares, and null if it declares none. -/
theorem keeps_of_mem_methods {b : Builtin} {m : Method} (hm : m ∈ b.methods) {h : Hierarchy}
    {recv : Object} {args : List Value} (hc : m.Admits h recv args) (s : Store) :
    (∀ fault, (m.body h recv args s).1 = .error fault → fault.isView = false) ∧
    ∀ v, (m.body h recv args s).1 = .ok v → h.FitsResult m.returns v := by
  have hs := sound_of_mem_methods hm h recv args hc s
  constructor
  · intro fault hf
    rwa [hf] at hs
  · intro v hv
    rwa [hv] at hs

/-- An element of a list, and one outside of it. The method is declared for a class above that of
    the receiver. -/
theorem keeps_of_mem_methods_get :
    let recv : Object := .list 0 [none, some (.world ⟨0⟩)]
    let args (n : Int32) : List Value := [some (.value 1 (.scalar .int n))]
    ∃ m ∈ list.methods, (∀ n, m.Admits .builtins recv (args n)) ∧
      (m.body .builtins recv (args 1) .empty).1 = .ok (some (.world ⟨0⟩)) ∧
      Hierarchy.builtins.FitsResult m.returns (some (.world ⟨0⟩)) ∧
      (m.body .builtins recv (args 2) .empty).1 = .error (.indexOutside 2 2) ∧
      (Fault.indexOutside 2 2).isView = false := by
  intro recv args
  have hmem : listMethods[0] ∈ list.methods := by simp [Builtin.methods, listMethods]
  have hadmits (n : Int32) : listMethods[0].Admits .builtins recv (args n) :=
    { receiver_own := rfl
      receiver_isA := Hierarchy.builtins.isA_builtins_iff.2 (by decide)
      args_own := by simp [args, Object.isOwn]
      args_fit := .cons (Hierarchy.builtins.fits_some.2 (Hierarchy.builtins.isA_self _)) .nil }
  have hinside : (listMethods[0].body .builtins recv (args 1) .empty).1 =
      .ok (some (.world ⟨0⟩)) := by
    cbv
  have houtside : (listMethods[0].body .builtins recv (args 2) .empty).1 =
      .error (.indexOutside 2 2) := by
    cbv
  exact ⟨_, hmem, hadmits, hinside, (keeps_of_mem_methods hmem (hadmits 1) _).2 _ hinside, houtside,
    (keeps_of_mem_methods hmem (hadmits 2) _).1 _ houtside⟩

end Builtin

end Chainwalk
