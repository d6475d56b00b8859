import Chainwalk.Proofs.Realm.Methods
import Chainwalk.Proofs.Seeds.Realm

/-!
# Everyone stays

Most of what is done on a server leaves everyone where they are: the worlds and the players of the
servers are the same as before, whoever was there stands where they stood, and the list of a world
only gets longer, by mobs that are new and stand in the world. This is a reflexive and transitive
relation of realms, and all changes go along it that methods make, but for moving an entity.

* `Realm.Stays`: everyone stays;
* `Realm.stays_modifyWorld` to `Realm.stays_spawnMob`: the changes of the realm, and
  `Realm.stays_changes` all of them;
* `Builtin.stays_methods`: the methods of the built-in classes.
-/

namespace Chainwalk

namespace Table

variable {kind : Resident} {α β : Type} {g : α → β} {f : α → α}

/-- What a change leaves alone of every entry is the same afterwards. -/
theorem map_get?_modify (hg : ∀ a, g (f a) = g a) (t : Table kind α) (r s : Ref kind) :
    ((t.modify r f).get? s).map g = (t.get? s).map g := by
  rw [get?_modify]
  split
  · rw [Option.map_map]
    exact congrArg (Option.map · _) (funext hg)
  · rfl

theorem map_get?_foldl_modify (hg : ∀ a, g (f a) = g a) (rs : List (Ref kind)) (t : Table kind α)
    (s : Ref kind) :
    ((rs.foldl (fun t r => t.modify r f) t).get? s).map g = (t.get? s).map g := by
  induction rs generalizing t with
  | nil => rfl
  | cons r rs ih => rw [List.foldl_cons, ih, map_get?_modify hg]

end Table

namespace Realm

/-- Whether an entity is there and stands in a world. -/
def StandsIn (realm : Realm) (e : EntityRef) (r : Ref .world) : Prop :=
  ∃ x, realm.entity? e = some x ∧ x.location.world = r

/-- From one realm to the other everyone stays, and only mobs are new in the lists of worlds. -/
structure Stays (a b : Realm) : Prop where
  servers : ∀ s, (b.servers.get? s).isSome = (a.servers.get? s).isSome
  worldsOf : ∀ s, b.worldsOf s = a.worldsOf s
  playersOf : ∀ s, b.playersOf s = a.playersOf s
  owners : ∀ r, (b.worlds.get? r).map World.server = (a.worlds.get? r).map World.server
  entities : ∀ e x, a.entity? e = some x → ∃ y, b.entity? e = some y ∧ y.location = x.location
  spawned : ∀ r, ∃ new, b.mobsOf r = a.mobsOf r ++ new ∧ new.Nodup ∧
    ∀ m ∈ new, a.entity? (.mob m) = none ∧ b.StandsIn (.mob m) r

variable {a b : Realm}

theorem Stays.standsIn (h : Stays a b) {e : EntityRef} {r : Ref .world} (he : a.StandsIn e r) :
    b.StandsIn e r := by
  obtain ⟨x, hx, rfl⟩ := he
  obtain ⟨y, hy, hloc⟩ := h.entities e x hx
  exact ⟨y, hy, congrArg Location.world hloc⟩

/-- Who is nowhere afterwards was nowhere before. -/
theorem Stays.entity?_eq_none (h : Stays a b) {e : EntityRef} (he : b.entity? e = none) :
    a.entity? e = none := by
  rcases hx : a.entity? e with _ | x
  · rfl
  · obtain ⟨y, hy, -⟩ := h.entities e x hx
    rw [he] at hy
    contradiction

instance : IsPreorder Realm Stays where
  refl a := ⟨fun _ => rfl, fun _ => rfl, fun _ => rfl, fun _ => rfl, fun _ x hx => ⟨x, hx, rfl⟩,
    fun _ => ⟨[], (List.append_nil _).symm, List.nodup_nil, fun _ hm => absurd hm List.not_mem_nil⟩⟩
  trans a b c hab hbc := by
    refine ⟨fun s => (hbc.servers s).trans (hab.servers s),
      fun s => (hbc.worldsOf s).trans (hab.worldsOf s),
      fun s => (hbc.playersOf s).trans (hab.playersOf s),
      fun r => (hbc.owners r).trans (hab.owners r), fun e x hx => ?entities, fun r => ?spawned⟩
    case entities =>
      obtain ⟨y, hy, hyx⟩ := hab.entities e x hx
      obtain ⟨z, hz, hzy⟩ := hbc.entities e y hy
      exact ⟨z, hz, hzy.trans hyx⟩
    case spawned =>
      obtain ⟨new, hnew, hnodup, hin⟩ := hab.spawned r
      obtain ⟨new', hnew', hnodup', hin'⟩ := hbc.spawned r
      refine ⟨new ++ new', by rw [hnew', hnew, List.append_assoc], ?_, fun m hm => ?_⟩
      · -- Those that came first were there when the others came.
        refine List.nodup_append'.2 ⟨hnodup, hnodup', fun m hm hm' => ?_⟩
        obtain ⟨x, hx, -⟩ := (hin m hm).2
        rw [(hin' m hm').1] at hx
        contradiction
      · rcases List.mem_append.1 hm with hm | hm
        · exact ⟨(hin m hm).1, hbc.standsIn (hin m hm).2⟩
        · exact ⟨hab.entity?_eq_none (hin' m hm).1, (hin' m hm).2⟩

/-- What a change of servers must leave alone. -/
def lists (s : Server) : List (Ref .world) × List (Ref .player) := (s.worlds, s.players)

/-- What a change of worlds must leave alone. -/
def bonds (w : World) : Option (Ref .server) × List (Ref .mob) := (w.server, w.mobs)

/-- Everyone stays if no list is changed, nor the place of anyone. -/
theorem stays_of_lists
    (hservers : ∀ s, (b.servers.get? s).map lists = (a.servers.get? s).map lists)
    (hworlds : ∀ r, (b.worlds.get? r).map bonds = (a.worlds.get? r).map bonds)
    (hentities : ∀ e x, a.entity? e = some x →
      ∃ y, b.entity? e = some y ∧ y.location = x.location) : Stays a b := by
  have hserver {β : Type} (g : List (Ref .world) × List (Ref .player) → β) (s : Ref .server) :
      (b.servers.get? s).map (g ∘ lists) = (a.servers.get? s).map (g ∘ lists) := by
    rw [← Option.map_map, hservers, Option.map_map]
  have hworld {β : Type} (g : Option (Ref .server) × List (Ref .mob) → β) (r : Ref .world) :
      (b.worlds.get? r).map (g ∘ bonds) = (a.worlds.get? r).map (g ∘ bonds) := by
    rw [← Option.map_map, hworlds, Option.map_map]
  refine ⟨fun s => ?servers, fun s => congrArg (Option.getD · []) (hserver Prod.fst s),
    fun s => congrArg (Option.getD · []) (hserver Prod.snd s), hworld Prod.fst, hentities,
    fun r => ⟨[], ?mobs, List.nodup_nil, fun _ hm => absurd hm List.not_mem_nil⟩⟩
  case servers => simpa using congrArg Option.isSome (hservers s)
  case mobs =>
    rw [List.append_nil]
    exact congrArg (Option.getD · []) (hworld Prod.snd r)

/-! ## The changes of the realm -/

/-- What is done to stacks and inventories alone. -/
theorem stays_of_tables (hs : b.servers = a.servers) (hw : b.worlds = a.worlds)
    (hp : b.players = a.players) (hm : b.mobs = a.mobs) : Stays a b := by
  refine stays_of_lists (fun s => by rw [hs]) (fun r => by rw [hw]) fun e x hx => ⟨x, ?_, rfl⟩
  rw [← hx]
  cases e <;> simp only [entity?, hp, hm]

theorem stays_modifyWorld (r : Ref .world) {f : World → World}
    (hf : ∀ w, (f w).mobs = w.mobs ∧ (f w).server = w.server) :
    Along Stays (modifyWorld r f) := by
  intro realm
  refine stays_of_lists (fun _ => rfl) (fun q => ?_) fun e x hx => ⟨x, hx, rfl⟩
  exact Table.map_get?_modify (fun w => Prod.ext (hf w).2 (hf w).1) _ r q

theorem stays_modifyServer (s : Ref .server) {f : Server → Server}
    (hf : ∀ v, lists (f v) = lists v) : Along Stays (modifyServer s f) := by
  intro realm
  refine stays_of_lists (fun q => ?_) (fun _ => rfl) fun e x hx => ⟨x, hx, rfl⟩
  exact Table.map_get?_modify hf _ s q

theorem stays_modifyStack (r : Ref .stack) (f : ItemStack → ItemStack) :
    Along Stays (modifyStack r f) :=
  fun _ => stays_of_tables rfl rfl rfl rfl

theorem stays_newStack (s : ItemStack) : Along Stays (newStack s) :=
  fun _ => stays_of_tables rfl rfl rfl rfl

theorem stays_modifyInventory (r : Ref .inventory) (f : Inventory → Inventory) :
    Along Stays (modifyInventory r f) :=
  fun _ => stays_of_tables rfl rfl rfl rfl

theorem stays_addItems (r : Ref .inventory) (m : Material) (n : UInt8) :
    Along Stays (addItems r m n) :=
  (along_getInventory r).bind fun _ => .modifyGet fun _ => stays_of_tables rfl rfl rfl rfl

theorem stays_removeItems (r : Ref .inventory) (m : Material) (n : UInt32) :
    Along Stays (removeItems r m n) :=
  (along_getInventory r).bind fun _ => .modifyGet fun _ => stays_of_tables rfl rfl rfl rfl

theorem stays_setBlock (r : Ref .world) (p : BlockPos) (m : Material) :
    Along Stays (setBlock r p m) :=
  .guard _ (.guard _ (stays_modifyWorld r fun _ => ⟨rfl, rfl⟩))

theorem stays_setMaterial (b : Block) (m : Material) : Along Stays (setMaterial b m) :=
  (along_getWorld b.world).bind fun _ => stays_setBlock b.world b.pos m

/-! ### Entities -/

/-- What becomes of the entities when one of them is changed. -/
theorem entity?_modifyEntity (e e' : EntityRef) (f : Entity → Entity) (realm : Realm) :
    (modifyEntity e f realm).2.entity? e' =
      if e' = e then (realm.entity? e').map f else realm.entity? e' := by
  rcases e with r | r <;> rcases e' with q | q
  case player.mob | mob.player => rfl
  case player.player =>
    change ((realm.players.modify r fun p => { p with base := f p.base }).get? q).map
      Player.base = _
    simp only [Table.get?_modify, EntityRef.player.injEq, entity?]
    split
    · rw [Option.map_map, Option.map_map]
      rfl
    · rfl
  case mob.mob =>
    change ((realm.mobs.modify r fun m => { m with base := f m.base }).get? q).map Mob.base = _
    simp only [Table.get?_modify, EntityRef.mob.injEq, entity?]
    split
    · rw [Option.map_map, Option.map_map]
      rfl
    · rfl

/-- A change of an entity that is there and stays where it stands. -/
theorem stays_modifyEntity {e : EntityRef} {f : Entity → Entity} {realm : Realm}
    (hf : ∀ x, realm.entity? e = some x → (f x).location = x.location) :
    Stays realm (modifyEntity e f realm).2 := by
  refine stays_of_lists (fun s => ?_) (fun r => ?_) fun e' x hx => ?_
  · cases e <;> rfl
  · cases e <;> rfl
  · rw [entity?_modifyEntity]
    split
    · rename_i heq
      subst heq
      exact ⟨f x, by rw [hx, Option.map_some], hf x hx⟩
    · exact ⟨x, hx, rfl⟩

theorem run_getEntity (e : EntityRef) (realm : Realm) :
    getEntity e realm =
      match realm.entity? e with
      | some x => (.ok x, realm)
      | none => (.error .released, realm) := by
  change (match realm.entity? e with
    | some x => pure x
    | none => throw .released : RealmM Entity) realm = _
  cases realm.entity? e <;> rfl

theorem stays_setHealth (e : EntityRef) (health : Float) : Along Stays (setHealth e health) := by
  intro realm
  rw [setHealth, bind_apply, run_getEntity]
  rcases hx : realm.entity? e with _ | x
  · exact refl_of Stays realm
  · dsimp only
    rw [Entity.withHealth]
    split
    · change Stays realm (modifyEntity e (fun _ => { x with health }) realm).2
      refine stays_modifyEntity fun y hy => ?_
      obtain rfl := Option.some.inj (hx.symm.trans hy)
      rfl
    · exact refl_of Stays realm

theorem stays_modifyPlayer (r : Ref .player) {f : Player → Player}
    (hf : ∀ p, (f p).base = p.base) : Along Stays (modifyPlayer r f) := by
  intro realm
  refine stays_of_lists (fun _ => rfl) (fun _ => rfl) fun e x hx => ⟨x, ?_, rfl⟩
  rw [← hx]
  rcases e with q | q
  · exact Table.map_get?_modify hf _ r q
  · rfl

theorem stays_broadcast (s : Ref .server) (message : String) :
    Along Stays (broadcast s message) := by
  intro realm
  refine stays_of_lists (fun _ => rfl) (fun _ => rfl) fun e x hx => ⟨x, ?_, rfl⟩
  rw [← hx]
  rcases e with q | q
  · exact Table.map_get?_foldl_modify (by exact fun _ => rfl) _ _ q
  · rfl

theorem stays_advance (s : Ref .server) (ticks : UInt64) : Along Stays (advance s ticks) := by
  intro realm
  refine stays_of_lists (fun q => ?_) (fun r => ?_) fun e x hx => ⟨x, hx, rfl⟩
  · exact Table.map_get?_modify (by exact fun _ => rfl) _ s q
  · exact Table.map_get?_foldl_modify (by exact fun _ => rfl) _ _ r

/-! ### New residents -/

theorem stays_allocateEntityId (s : Ref .server) : Along Stays (allocateEntityId s) :=
  (along_getServer s).bind fun _ => (stays_modifyServer s (by exact fun _ => rfl)).bind
    fun _ => .pure _

/-- The realm with a new mob, in the list of a world. -/
def withMob (realm : Realm) (r : Ref .world) (m : Mob) : Realm :=
  { realm with
    worlds := realm.worlds.modify r fun w => { w with mobs := w.mobs ++ [realm.mobs.next] }
    mobs := realm.mobs.insert m }

theorem mobsOf_withMob (realm : Realm) (r q : Ref .world) (m : Mob) :
    (realm.withMob r m).mobsOf q =
      realm.mobsOf q ++ if q = r ∧ (realm.worlds.get? q).isSome then [realm.mobs.next] else [] := by
  rw [withMob, mobsOf, mobsOf, Table.get?_modify]
  rcases realm.worlds.get? q with _ | w
  · simp
  · split <;> simp [*]

theorem entity?_withMob_next (realm : Realm) (r : Ref .world) (m : Mob) :
    (realm.withMob r m).entity? (.mob realm.mobs.next) = some m.base :=
  congrArg (Option.map Mob.base) (Table.get?_insert_self _ m)

/-- A new mob stands in the world to whose list it comes. -/
theorem stays_withMob (realm : Realm) (m : Mob) :
    Stays realm (realm.withMob m.base.location.world m) := by
  refine ⟨fun _ => rfl, fun _ => rfl, fun _ => rfl, fun r => ?owners, fun e x hx => ⟨x, ?_, rfl⟩,
    fun r => ⟨_, mobsOf_withMob realm _ r m, ?nodup, fun q hq => ?new⟩⟩
  case owners => exact Table.map_get?_modify (by exact fun _ => rfl) _ _ r
  case nodup => split <;> simp
  case new =>
    obtain ⟨⟨rfl, -⟩, rfl⟩ : (r = m.base.location.world ∧ _) ∧ q = realm.mobs.next := by
      simpa using hq
    exact ⟨congrArg (Option.map Mob.base) (Table.get?_next _),
      m.base, entity?_withMob_next realm _ m, rfl⟩
  rcases e with q | q
  · exact hx
  · obtain ⟨m, hm, rfl⟩ := Option.map_eq_some_iff.1 hx
    exact congrArg (Option.map Mob.base) (Table.get?_insert_of_get? _ hm)

theorem stays_spawnMob (r : Ref .world) (kind : MobType) (location : Location) :
    Along Stays (spawnMob r kind location) := by
  refine (along_getWorld r).bind fun world => ?_
  rcases eq_or_ne location.world r with rfl | hr
  · have hnew (id : UInt32) : Along Stays (do
        let mob ← newMob id kind location
        modifyWorld location.world fun w => { w with mobs := w.mobs ++ [mob] }
        return mob) :=
      fun realm => stays_withMob realm (.make id kind location)
    refine .guard _ (.get_bind fun realm => ?_)
    dsimp only
    split
    · exact (stays_allocateEntityId _).bind hnew
    · exact (Along.pure _).bind hnew
  · rw [if_pos hr]
    exact .throw_bind _ _

end Realm

/-! ## The methods -/

open Realm

theorem Realm.stays_changes : ChangesAlong Stays where
  health := stays_setHealth
  player r _ := stays_modifyPlayer r
  add := stays_addItems
  remove := stays_removeItems
  clear r := stays_modifyInventory r _
  broadcast := stays_broadcast
  advance := stays_advance
  world r _ hf := stays_modifyWorld r fun w => (hf w).2
  spawn := stays_spawnMob
  material := stays_setMaterial

/-- Everyone stays where they are when a method is called, unless it moves an entity. -/
theorem Builtin.stays_methods {b : Builtin} {m : Method} (hm : m ∈ b.methods) :
    m = .teleport ∨ m.Along Stays := by
  rcases along_methods stays_changes hm with rfl | rfl | rfl | h
  · exact .inl rfl
  · exact .inr (along_setAmount stays_modifyStack)
  · exact .inr (along_setItem stays_modifyInventory stays_newStack)
  · exact .inr h

end Chainwalk
