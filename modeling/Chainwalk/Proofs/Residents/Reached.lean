import Chainwalk.Proofs.Snapshot.Acceptance

/-!
# What servers come to

A server is loaded, and then worlds, players and mobs come to it, methods are called, and stacks are
made when literals are read, in any order. Through all of this its worlds are there and have
different names: a world is only added under a name that is free, and nothing else changes which
worlds a server has or what they are called.

* `Realm.SameWorlds`: worlds and their names are as before;
* `Realm.sameWorlds_changes`, `Builtin.sameWorlds_methods`: the changes of the realm and the
  methods, the one that moves entities among them;
* `Realm.Reached`: the realms that a server comes to;
* `Realm.Reached.worldsApart`: its worlds in all of them;
* `Plugin.Ready.reached_states`: commands lead to such realms only.
-/

namespace Chainwalk

namespace Realm

/-! ## The same worlds -/

/-- From one realm to the other servers have the same worlds, and worlds the same names. -/
structure SameWorlds (a b : Realm) : Prop where
  servers : ∀ s, (b.servers.get? s).isSome = (a.servers.get? s).isSome
  worldsOf : ∀ s, b.worldsOf s = a.worldsOf s
  names : ∀ r, (b.worlds.get? r).map World.name = (a.worlds.get? r).map World.name

variable {a b : Realm} {s : Ref .server}

instance : IsPreorder Realm SameWorlds where
  refl _ := ⟨fun _ => rfl, fun _ => rfl, fun _ => rfl⟩
  trans _ _ _ hab hbc := ⟨fun s => (hbc.servers s).trans (hab.servers s),
    fun s => (hbc.worldsOf s).trans (hab.worldsOf s), fun r => (hbc.names r).trans (hab.names r)⟩

theorem WorldsApart.of_sameWorlds (h : a.WorldsApart s) (hab : SameWorlds a b) :
    b.WorldsApart s := by
  have hnames : (b.loadedWorlds s).map World.name = (a.loadedWorlds s).map World.name := by
    rw [loadedWorlds, loadedWorlds, List.map_filterMap, List.map_filterMap, hab.worldsOf]
    exact List.filterMap_congr fun r _ => hab.names r
  refine ⟨(hab.servers s).trans h.server, fun r hr => ?there, ?names⟩
  case there =>
    rw [hab.worldsOf] at hr
    have hsome := congrArg Option.isSome (hab.names r)
    rw [Option.isSome_map, Option.isSome_map] at hsome
    exact hsome.trans (h.there r hr)
  case names =>
    rw [← List.pairwise_map (f := World.name) (R := fun x y => ¬Text.sameIgnoringCase x y), hnames,
      List.pairwise_map]
    exact h.names

/-- What is done to neither servers nor worlds. -/
theorem sameWorlds_of_tables (hs : b.servers = a.servers) (hw : b.worlds = a.worlds) :
    SameWorlds a b :=
  ⟨fun s => by rw [hs], fun s => by rw [Realm.worldsOf, Realm.worldsOf, hs], fun r => by rw [hw]⟩

theorem sameWorlds_modifyServer (s : Ref .server) {f : Server → Server}
    (hf : ∀ v, (f v).worlds = v.worlds) : Along SameWorlds (modifyServer s f) := by
  intro realm
  have hworlds (q : Ref .server) := Table.map_get?_modify hf realm.servers s q
  refine ⟨fun q => ?_, fun q => congrArg (Option.getD · []) (hworlds q), fun _ => rfl⟩
  have hsome := congrArg Option.isSome (hworlds q)
  rwa [Option.isSome_map, Option.isSome_map] at hsome

theorem sameWorlds_modifyWorld (r : Ref .world) {f : World → World}
    (hf : ∀ w, (f w).name = w.name) : Along SameWorlds (modifyWorld r f) :=
  fun _ => ⟨fun _ => rfl, fun _ => rfl, Table.map_get?_modify hf _ r⟩

theorem sameWorlds_modifyEntity (e : EntityRef) (f : Entity → Entity) :
    Along SameWorlds (modifyEntity e f) := by
  intro realm
  cases e <;> exact sameWorlds_of_tables rfl rfl

theorem sameWorlds_newStack (s : ItemStack) : Along SameWorlds (newStack s) :=
  fun _ => sameWorlds_of_tables rfl rfl

theorem sameWorlds_setHealth (e : EntityRef) (health : Float) :
    Along SameWorlds (setHealth e health) := by
  refine (along_getEntity e).bind fun x => ?_
  cases x.withHealth health with
  | error refusal => exact .throw_bind refusal _
  | ok y => exact (Along.pure y).bind fun y => sameWorlds_modifyEntity e _

theorem sameWorlds_teleport (e : EntityRef) (l : Location) : Along SameWorlds (teleport e l) := by
  refine .get_bind fun realm => (along_getEntity e).bind fun x => ?_
  cases realm.moved? x l with
  | none => exact .pure false
  | some y => exact (sameWorlds_modifyEntity e _).bind fun _ => .pure true

theorem sameWorlds_advance (s : Ref .server) (ticks : UInt64) :
    Along SameWorlds (advance s ticks) := by
  intro realm
  have hserver := sameWorlds_modifyServer s (f := (·.advanced ticks)) (by exact fun _ => rfl) realm
  exact ⟨hserver.servers, hserver.worldsOf,
    Table.map_get?_foldl_modify (by exact fun _ => rfl) _ _⟩

theorem sameWorlds_setMaterial (b : Block) (m : Material) :
    Along SameWorlds (setMaterial b m) :=
  (along_getWorld b.world).bind fun _ =>
    .guard _ (.guard _ (sameWorlds_modifyWorld b.world (by exact fun _ => rfl)))

theorem sameWorlds_spawnMob (r : Ref .world) (kind : MobType) (l : Location) :
    Along SameWorlds (spawnMob r kind l) :=
  along_spawnMob r kind l (fun s _ => sameWorlds_modifyServer s (by exact fun _ => rfl))
    (fun _ _ => sameWorlds_of_tables rfl rfl) fun _ =>
      sameWorlds_modifyWorld r (by exact fun _ => rfl)

theorem sameWorlds_join (s : Ref .server) (name : String) (l : Location) :
    Along SameWorlds (join s name l) :=
  along_join s name l (fun _ => sameWorlds_modifyServer s (by exact fun _ => rfl))
    (fun _ _ => sameWorlds_of_tables rfl rfl) fun _ =>
      sameWorlds_modifyServer s (by exact fun _ => rfl)

theorem sameWorlds_changes : ChangesAlong SameWorlds where
  health := sameWorlds_setHealth
  player _ _ _ := fun _ => sameWorlds_of_tables rfl rfl
  add r _ _ := (along_getInventory r).bind fun _ => .modifyGet fun _ => sameWorlds_of_tables rfl rfl
  remove r _ _ :=
    (along_getInventory r).bind fun _ => .modifyGet fun _ => sameWorlds_of_tables rfl rfl
  clear _ := fun _ => sameWorlds_of_tables rfl rfl
  broadcast _ _ := fun _ => sameWorlds_of_tables rfl rfl
  advance := sameWorlds_advance
  world r _ hf := sameWorlds_modifyWorld r fun w => (hf w).1
  spawn := sameWorlds_spawnMob
  material := sameWorlds_setMaterial

end Realm

open Realm

/-- No method changes which worlds there are, or what they are called. -/
theorem Builtin.sameWorlds_methods {b : Builtin} {m : Method} (hm : m ∈ b.methods) :
    m.Along SameWorlds := by
  rcases along_methods sameWorlds_changes hm with rfl | rfl | rfl | h
  · exact along_teleport sameWorlds_teleport
  · exact along_setAmount fun _ _ _ => sameWorlds_of_tables rfl rfl
  · exact along_setItem (fun _ _ _ => sameWorlds_of_tables rfl rfl) sameWorlds_newStack
  · exact h

/-! ## The realms that a server comes to -/

namespace Realm

/-- The realms that a server comes to, from when it is loaded. -/
inductive Reached (s : Ref .server) : Realm → Prop
  | loaded {snapshot : Snapshot} {o : Ref .world → BlockOrder} {realm : Realm}
      (hload : snapshot.load (.ordered o) = (.ok s, realm)) : Reached s realm
  | come {realm : Realm} (h : Reached s realm) (x : Arrival) : Reached s (x.come s realm).2
  | called {t : Store} (h : Reached s t.realm) {b : Builtin} {m : Method} (hm : m ∈ b.methods)
      (hierarchy : Hierarchy) (recv : Object) (args : List Value) :
      Reached s (m.invoke hierarchy recv args t).2.realm
  | stacked {realm : Realm} (h : Reached s realm) (m : Material) (n : UInt8) :
      Reached s (newStack (.make m n) realm).2

variable {realm : Realm} {s : Ref .server}

theorem WorldsApart.come (h : realm.WorldsApart s) (x : Arrival) :
    (x.come s realm).2.WorldsApart s := by
  cases x with
  -- Only a world that comes is a change, and it does not come under a name that is taken.
  | world name seed =>
    rw [Arrival.come, bind_apply, run_createWorld]
    by_cases htaken : (realm.world? s name).isSome
    · rw [if_pos htaken]
      exact h
    · rw [if_neg htaken]
      exact h.withWorld (Option.not_isSome_iff_eq_none.1 htaken) seed
  | player name l =>
    exact h.of_sameWorlds (((sameWorlds_join s name l).bind fun _ => .pure _) realm)
  | mob r kind l =>
    exact h.of_sameWorlds (((sameWorlds_spawnMob r kind l).bind fun _ => .pure _) realm)

/-- Whatever a server comes to, its worlds are there and have different names. -/
theorem Reached.worldsApart (h : Reached s realm) : realm.WorldsApart s := by
  induction h with
  | @loaded snapshot o realm hload =>
    have hshows := Snapshot.checks_load snapshot o (.ordered o) rfl
    rw [hload] at hshows
    exact hshows.2.2.order.worldsApart
  | come _ x ih => exact ih.come x
  | @called t _ b m hm hierarchy recv args ih =>
    exact ih.of_sameWorlds ((Builtin.sameWorlds_methods hm).invoke hierarchy recv args t)
  | stacked _ m n ih => exact ih.of_sameWorlds (sameWorlds_newStack _ _)

/-- What is reached from one realm is reached from the other. -/
def Onward (s : Ref .server) (a b : Realm) : Prop := Reached s a → Reached s b

instance (s : Ref .server) : IsPreorder Realm (Onward s) where
  refl _ h := h
  trans _ _ _ hab hbc h := hbc (hab h)

end Realm

/-- Commands lead to nothing but what a server comes to. -/
theorem Plugin.Ready.reached_states {p : Plugin} (hp : p.Ready) {s : Ref .server} {t : Store}
    (ht : Reached s t.realm) (c : Config) (commands : List (Sender × Command)) :
    ∀ u ∈ p.states c commands t, Reached s u.realm :=
  hp.invariant_states (R := Onward s) (I := Reached s) (fun m n _ h => h.stacked m n)
    (fun _ _ hab => hab) (fun k ⟨_, hm⟩ h => h.called hm .builtins k.receiver k.args) c commands ht

end Chainwalk
