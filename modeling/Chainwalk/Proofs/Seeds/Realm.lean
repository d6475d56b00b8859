import Chainwalk.Proofs.Seeds.Blind
import Chainwalk.Realm.Basic

/-!
# Realms in disguise

`Realm.disguised` changes nothing but the seeds of the worlds and the order in which their blocks
come. No question about the realm is answered by either of these, and no change of the realm is up
to them: all of them are blind to it, with `Realm.getWorld` as the only exception, because that
hands out the world as a whole.

* `Realm.get?_worlds_disguised`, `Realm.map_get?_disguised`: what is found of worlds;
* `Realm.blind_bind_getWorld`: what is done with a world may not be up to its seed;
* `Realm.blind_setBlock` to `Realm.blind_removeItems`: the changes of the realm are blind.
-/

namespace Chainwalk

/-! ## Tables -/

namespace Table

variable {kind : Resident} {α : Type}

/-- The table with every entry changed, given the reference to it. -/
def mapRefs (g : Ref kind → α → α) (t : Table kind α) : Table kind α :=
  ⟨t.entries.mapIdx fun i => Option.map (g ⟨i⟩)⟩

variable (g : Ref kind → α → α) (t : Table kind α)

theorem get?_mapRefs (r : Ref kind) : (t.mapRefs g).get? r = (t.get? r).map (g r) := by
  obtain ⟨i⟩ := r
  simp only [get?, mapRefs, Array.getElem?_mapIdx]
  rcases t.entries[i]? with _ | _ | a <;> rfl

theorem next_mapRefs : (t.mapRefs g).next = t.next := by
  simp [next, mapRefs]

theorem mapRefs_insert (a : α) : (t.insert a).mapRefs g = (t.mapRefs g).insert (g t.next a) := by
  simp [insert, mapRefs, next, Array.mapIdx_push]

theorem mapRefs_modify {r : Ref kind} {f : α → α} (hf : ∀ a, g r (f a) = f (g r a)) :
    (t.modify r f).mapRefs g = (t.mapRefs g).modify r f := by
  obtain ⟨i⟩ := r
  simp only [modify, mapRefs, Table.mk.injEq]
  refine Array.ext_getElem? fun j => ?_
  simp only [Array.getElem?_mapIdx, Array.getElem?_modify]
  by_cases hj : i = j
  · subst hj
    rcases t.entries[i]? with _ | _ | a <;> simp [hf]
  · simp [hj]

end Table

/-! ## Worlds and realms -/

namespace World

/-- The world with another seed. -/
def withSeed (w : World) (seed : UInt64) : World := { w with seed }

/-- A change of worlds that is not up to their seeds and leaves them alone. -/
def Unseeing (g : World → World) : Prop := ∀ w seed, g (w.withSeed seed) = (g w).withSeed seed

/-- Such a change goes with other seeds, whichever they are. -/
theorem Unseeing.withSeed {g : World → World} (hg : Unseeing g) (z : UInt64 → UInt64) (w : World) :
    (g w).withSeed (z (g w).seed) = g (w.withSeed (z w.seed)) := by
  -- The world has its own seed, so the change keeps it.
  have hown : g w = (g w).withSeed w.seed := hg w w.seed
  rw [hg, show (g w).seed = w.seed from (congrArg World.seed hown).trans rfl]

end World

/-- Other seeds for worlds, given their own, other orders for their blocks, and other hash codes for
    objects. -/
structure Disguise where
  seed : Ref .world → UInt64 → UInt64
  order : Ref .world → BlockOrder
  codes : Object.Identity → Int32

namespace Realm

/-- The realm with other seeds for its worlds, and other orders for their blocks. -/
def disguised (f : Disguise) (realm : Realm) : Realm :=
  { realm with
    worlds := realm.worlds.mapRefs fun r w => w.withSeed (f.seed r w.seed)
    order := f.order }

theorem modify_worlds_disguised (f : Disguise) (realm : Realm)
    {g : World → World} (hg : World.Unseeing g) (r : Ref .world) :
    (realm.disguised f).worlds.modify r g =
      (realm.worlds.modify r g).mapRefs fun r w => w.withSeed (f.seed r w.seed) :=
  (Table.mapRefs_modify _ _ (hg.withSeed (f.seed r))).symm

section

variable (f : Disguise) (realm : Realm)

theorem get?_worlds_disguised (r : Ref .world) :
    (realm.disguised f).worlds.get? r =
      (realm.worlds.get? r).map fun w => w.withSeed (f.seed r w.seed) :=
  Table.get?_mapRefs _ _ r

/-- What is asked of a world is as it was, unless it is the seed. -/
theorem map_get?_disguised {α : Type} {q : World → α} (hq : ∀ w seed, q (w.withSeed seed) = q w)
    (r : Ref .world) :
    ((realm.disguised f).worlds.get? r).map q = (realm.worlds.get? r).map q := by
  rw [get?_worlds_disguised, Option.map_map]
  exact congrArg (Option.map · _) (funext fun w => hq w _)

theorem any_get?_disguised {q : World → Bool} (hq : ∀ w seed, q (w.withSeed seed) = q w)
    (r : Ref .world) : ((realm.disguised f).worlds.get? r).any q = (realm.worlds.get? r).any q := by
  rw [get?_worlds_disguised, Option.any_map]
  exact congrArg (Option.any · _) (funext fun w => hq w _)

theorem isSome_get?_disguised (r : Ref .world) :
    ((realm.disguised f).worlds.get? r).isSome = (realm.worlds.get? r).isSome := by
  rw [get?_worlds_disguised, Option.isSome_map]

/-! ## Questions -/

@[simp] theorem worldName_disguised (r : Ref .world) :
    (realm.disguised f).worldName r = realm.worldName r :=
  congrArg (Option.getD · _) (map_get?_disguised f realm (fun _ _ => rfl) r)

@[simp] theorem worldsOf_disguised (s : Ref .server) :
    (realm.disguised f).worldsOf s = realm.worldsOf s := rfl

@[simp] theorem playersOf_disguised (s : Ref .server) :
    (realm.disguised f).playersOf s = realm.playersOf s := rfl

@[simp] theorem defaultWorld?_disguised (s : Ref .server) :
    (realm.disguised f).defaultWorld? s = realm.defaultWorld? s := rfl

@[simp] theorem player?_disguised (s : Ref .server) (name : String) :
    (realm.disguised f).player? s name = realm.player? s name := rfl

@[simp] theorem entity?_disguised (e : EntityRef) :
    (realm.disguised f).entity? e = realm.entity? e := by
  cases e <;> rfl

@[simp] theorem world?_disguised (s : Ref .server) (name : String) :
    (realm.disguised f).world? s name = realm.world? s name :=
  congrArg (List.find? · _) (funext fun r => any_get?_disguised f realm (fun _ _ => rfl) r)

@[simp] theorem playersIn_disguised (r : Ref .world) :
    (realm.disguised f).playersIn r = realm.playersIn r := by
  rw [playersIn, playersIn, get?_worlds_disguised]
  cases realm.worlds.get? r <;> rfl

@[simp] theorem mobsOf_disguised (r : Ref .world) :
    (realm.disguised f).mobsOf r = realm.mobsOf r :=
  congrArg (Option.getD · _) (map_get?_disguised f realm (fun _ _ => rfl) r)

@[simp] theorem material_disguised (b : Block) :
    (realm.disguised f).material b = realm.material b :=
  congrArg (Option.getD · _) (map_get?_disguised f realm (fun _ _ => rfl) b.world)

@[simp] theorem spawnLocation?_disguised (r : Ref .world) :
    (realm.disguised f).spawnLocation? r = realm.spawnLocation? r :=
  map_get?_disguised f realm (fun _ _ => rfl) r

@[simp] theorem distance_disguised (a b : Location) :
    (realm.disguised f).distance a b = realm.distance a b := by
  simp only [distance, worldName_disguised]

@[simp] theorem locationText_disguised (l : Location) :
    (realm.disguised f).locationText l = realm.locationText l := by
  simp only [locationText, worldName_disguised]

@[simp] theorem blockText_disguised (b : Block) :
    (realm.disguised f).blockText b = realm.blockText b := by
  simp only [blockText, material_disguised]

@[simp] theorem entityById?_disguised (s : Ref .server) (id : UInt32) :
    (realm.disguised f).entityById? s id = realm.entityById? s id := by
  simp only [entityById?, entity?_disguised, playersOf_disguised, worldsOf_disguised,
    show (realm.disguised f).mobsOf = realm.mobsOf from funext fun r => mobsOf_disguised f realm r]

@[simp] theorem moved?_disguised (e : Entity) (location : Location) :
    (realm.disguised f).moved? e location = realm.moved? e location :=
  map_get?_disguised f realm (fun _ _ => rfl) location.world

end

/-! ## Residents -/

variable {f : Disguise} {α : Type}

theorem blind_getServer (r : Ref .server) : Blind (disguised f) (getServer r) := by
  refine .get_bind (fun realm => ?_) fun _ => rfl
  cases realm.servers.get? r with
  | none => exact .throw _
  | some s => exact .pure s

theorem blind_getPlayer (r : Ref .player) : Blind (disguised f) (getPlayer r) := by
  refine .get_bind (fun realm => ?_) fun _ => rfl
  cases realm.players.get? r with
  | none => exact .throw _
  | some p => exact .pure p

theorem blind_getMob (r : Ref .mob) : Blind (disguised f) (getMob r) := by
  refine .get_bind (fun realm => ?_) fun _ => rfl
  cases realm.mobs.get? r with
  | none => exact .throw _
  | some m => exact .pure m

theorem blind_getEntity (e : EntityRef) : Blind (disguised f) (getEntity e) := by
  refine .get_bind (fun realm => ?_) fun realm => by rw [entity?_disguised]
  cases realm.entity? e with
  | none => exact .throw _
  | some b => exact .pure b

theorem blind_getInventory (r : Ref .inventory) : Blind (disguised f) (getInventory r) := by
  refine .get_bind (fun realm => ?_) fun _ => rfl
  cases realm.inventories.get? r with
  | none => exact .throw _
  | some i => exact .pure i

theorem blind_getStack (r : Ref .stack) : Blind (disguised f) (getStack r) := by
  refine .get_bind (fun realm => ?_) fun _ => rfl
  cases Table.get? realm.itemStacks r with
  | none => exact .throw _
  | some s => exact .pure s

theorem run_getServer (r : Ref .server) (realm : Realm) :
    getServer r realm =
      match realm.servers.get? r with
      | some s => (.ok s, realm)
      | none => (.error .released, realm) := by
  change (match realm.servers.get? r with
    | some s => pure s
    | none => throw .released : RealmM Server) realm = _
  cases realm.servers.get? r <;> rfl

theorem run_getWorld (r : Ref .world) (realm : Realm) :
    getWorld r realm =
      match realm.worlds.get? r with
      | some w => (.ok w, realm)
      | none => (.error .unloaded, realm) := by
  change (match realm.worlds.get? r with
    | some w => pure w
    | none => throw .unloaded : RealmM World) realm = _
  cases realm.worlds.get? r <;> rfl

/-- A world is handed out with its new seed. -/
theorem getWorld_disguised (r : Ref .world) (realm : Realm) :
    getWorld r (realm.disguised f) =
      ((getWorld r realm).1.map fun w => w.withSeed (f.seed r w.seed),
        (getWorld r realm).2.disguised f) := by
  rw [run_getWorld, run_getWorld, get?_worlds_disguised]
  cases realm.worlds.get? r <;> rfl

/-- What is done with a world that is handed out may not be up to its seed. -/
theorem blind_bind_getWorld (r : Ref .world) {k : World → RealmM α}
    (hk : ∀ w, Blind (disguised f) (k w)) (hs : ∀ w seed, k (w.withSeed seed) = k w) :
    Blind (disguised f) (getWorld r >>= k) :=
  .bind_of_map (getWorld_disguised r) hk fun w => hs w _

theorem blind_modifyServer (r : Ref .server) (g : Server → Server) :
    Blind (disguised f) (modifyServer r g) :=
  .modify fun _ => rfl

theorem blind_modifyPlayer (r : Ref .player) (g : Player → Player) :
    Blind (disguised f) (modifyPlayer r g) :=
  .modify fun _ => rfl

theorem blind_modifyEntity (e : EntityRef) (g : Entity → Entity) :
    Blind (disguised f) (modifyEntity e g) := by
  refine .modify fun _ => ?_
  cases e <;> rfl

theorem blind_modifyStack (r : Ref .stack) (g : ItemStack → ItemStack) :
    Blind (disguised f) (modifyStack r g) :=
  .modify fun _ => rfl

theorem blind_modifyInventory (r : Ref .inventory) (g : Inventory → Inventory) :
    Blind (disguised f) (modifyInventory r g) :=
  .modify fun _ => rfl

theorem blind_modifyWorld (r : Ref .world) {g : World → World} (hg : World.Unseeing g) :
    Blind (disguised f) (modifyWorld r g) := by
  refine .modify fun realm => ?_
  rw [modify_worlds_disguised f realm hg]
  rfl

theorem blind_newStack (s : ItemStack) : Blind (disguised f) (newStack s) :=
  .modifyGet fun _ => rfl

theorem blind_newInventory : Blind (disguised f) newInventory :=
  .modifyGet fun _ => rfl

theorem blind_newMob (id : UInt32) (kind : MobType) (location : Location) :
    Blind (disguised f) (newMob id kind location) :=
  .modifyGet fun _ => rfl

theorem blind_newPlayer (id : UInt32) (name : String) (location : Location) :
    Blind (disguised f) (newPlayer id name location) :=
  blind_newInventory.bind fun _ => .modifyGet fun _ => rfl

/-! ## Blocks, entities and servers -/

theorem blind_setBlock (r : Ref .world) (p : BlockPos) (m : Material) :
    Blind (disguised f) (setBlock r p m) := by
  have hset : Blind (disguised f) (modifyWorld r fun w => { w with grid := w.grid.set p m }) :=
    blind_modifyWorld r fun _ _ => rfl
  rw [setBlock]
  exact .guard _ (.guard _ hset)

theorem blind_setMaterial (b : Block) (m : Material) : Blind (disguised f) (setMaterial b m) :=
  blind_bind_getWorld _ (fun _ => blind_setBlock _ _ _) fun _ _ => rfl

theorem blind_teleport (e : EntityRef) (location : Location) :
    Blind (disguised f) (teleport e location) := by
  refine .get_bind (fun realm => (blind_getEntity e).bind fun base => ?_)
    fun realm => by simp only [moved?_disguised]
  cases realm.moved? base location with
  | none => exact .pure false
  | some b => exact (blind_modifyEntity e _).bind fun _ => .pure true

theorem blind_setHealth (e : EntityRef) (health : Float) :
    Blind (disguised f) (setHealth e health) := by
  refine (blind_getEntity e).bind fun base => .bind ?_ fun b => blind_modifyEntity e _
  cases base.withHealth health with
  | error refusal => exact .throw refusal
  | ok b => exact .pure b

theorem blind_allocateEntityId (s : Ref .server) : Blind (disguised f) (allocateEntityId s) :=
  (blind_getServer s).bind fun _ => (blind_modifyServer s _).bind fun _ => .pure _

theorem blind_join (s : Ref .server) (name : String) (location : Location) :
    Blind (disguised f) (join s name location) :=
  .get_bind
    (fun _ => .guard _ <| (blind_getServer s).bind fun _ => .guard _ <|
      (blind_allocateEntityId s).bind fun id => (blind_newPlayer id name location).bind fun _ =>
        (blind_modifyServer s _).bind fun _ => .pure _)
    fun _ => rfl

/-- What a world says of a new mob is its name and its server. -/
theorem blind_spawnMob (r : Ref .world) (kind : MobType) (location : Location) :
    Blind (disguised f) (spawnMob r kind location) := by
  refine blind_bind_getWorld r (fun w => .guard _ (.get_bind (fun realm => ?_) fun _ => rfl))
    fun _ _ => rfl
  have hplace (id : UInt32) : Blind (disguised f) (do
      let mob ← newMob id kind location
      modifyWorld r fun w => { w with mobs := w.mobs ++ [mob] }
      return mob) := by
    refine (blind_newMob id kind location).bind fun mob => .bind ?_ fun _ => .pure mob
    exact blind_modifyWorld r fun _ _ => rfl
  cases realm.serverOf? w with
  | none => exact (Blind.pure _).bind hplace
  | some s => exact (blind_allocateEntityId s).bind hplace

theorem blind_advance (s : Ref .server) (ticks : UInt64) :
    Blind (disguised f) (advance s ticks) := by
  refine .modify fun realm => ?_
  -- The worlds are advanced one after another, and none of them is by its seed.
  change { realm with servers := _, worlds := _, order := f.order } = _
  rw [worldsOf_disguised]
  generalize realm.worldsOf s = rs
  induction rs generalizing realm with
  | nil => rfl
  | cons r rs ih =>
    have hadvanced : World.Unseeing (·.advanced ticks) := fun _ _ => rfl
    simp only [List.foldl_cons]
    rw [modify_worlds_disguised f realm hadvanced]
    exact ih { realm with worlds := realm.worlds.modify r (·.advanced ticks) }

theorem blind_broadcast (s : Ref .server) (message : String) :
    Blind (disguised f) (broadcast s message) :=
  .modifyGet fun _ => rfl

theorem blind_addItems (r : Ref .inventory) (m : Material) (n : UInt8) :
    Blind (disguised f) (addItems r m n) :=
  (blind_getInventory r).bind fun _ => .modifyGet fun _ => rfl

theorem blind_removeItems (r : Ref .inventory) (m : Material) (n : UInt32) :
    Blind (disguised f) (removeItems r m n) :=
  (blind_getInventory r).bind fun _ => .modifyGet fun _ => rfl

end Realm

end Chainwalk
