import Chainwalk.Proofs.Realm.Tables
import Chainwalk.Proofs.Residents.Arrivals

/-!
# Snapshots shown by a server

A server shows a snapshot if its worlds, mobs and players are those that the snapshot lists, in the
same order and looking as it says, and if the mobs of all worlds and then the players have the
numbers from one on. A server that shows a part of a snapshot comes to show more of it when a world,
a mob of the last world or a player comes to it.

* `Realm.Shows`: what it is to show a snapshot;
* `Realm.Builds`: the last of the worlds that are shown is the one that is built;
* `Realm.Shows.withWorld`, `Realm.Builds.withMob`, `Realm.Shows.withPlayer`: what comes is shown.
-/

namespace Chainwalk

namespace Table

variable {kind : Resident} {α : Type} {t : Table kind α} {rs : List (Ref kind)} {r : Ref kind}

/-- A change of the last entry of a list. -/
theorem filterMap_get?_modify_concat {a : α} (hr : r ∉ rs) (ha : t.get? r = some a)
    (f : α → α) :
    (rs ++ [r]).filterMap (t.modify r f).get? = rs.filterMap t.get? ++ [f a] := by
  have hlast : (t.modify r f).get? r = some (f a) := by
    rw [get?_modify, if_pos rfl, ha, Option.map_some]
  rw [List.filterMap_append, List.filterMap_cons_some hlast, List.filterMap_nil]
  refine congrArg (· ++ [f a]) (List.filterMap_congr fun q hq => ?_)
  have hne : q ≠ r := fun heq => hr (heq ▸ hq)
  rw [get?_modify, if_neg hne]

end Table

/-- Lists that are looked at alike are alike in their last elements and before them. -/
theorem map_concat_eq_iff {α β γ : Type} {xs : List α} {x : α} {ys : List β} {y : β} {f : α → γ}
    {g : β → γ} :
    (xs ++ [x]).map f = (ys ++ [y]).map g ↔ xs.map f = ys.map g ∧ f x = g y := by
  simp

/-! ## Looks -/

/-- How a world looks, its blocks and mobs apart. -/
def World.look (w : World) : String × UInt64 × UInt64 × Weather × Triple Float :=
  (w.name, w.seed, w.time, w.weather, w.spawn)

/-- How a world is to look. -/
def WorldSpec.look (w : WorldSpec) : String × UInt64 × UInt64 × Weather × Triple Float :=
  (w.name, w.seed, w.time, w.weather, w.spawn.getD (0.5, 64, 0.5))

/-- What a mob is, and where. -/
def Mob.look (m : Mob) : MobType × Triple Float :=
  (m.kind, m.base.location.x, m.base.location.y, m.base.location.z)

/-- What a mob is to be, and where. -/
def MobSpec.look (m : MobSpec) : MobType × Triple Float := (m.kind, m.position)

/-- How a player is, its place and items apart. -/
def Player.look (p : Player) : String × GameMode × Int32 := (p.base.name, p.gameMode, p.level)

/-- How a player is to be. -/
def PlayerSpec.look (p : PlayerSpec) : String × GameMode × Int32 :=
  (p.name, p.gameMode, max p.level 0)

/-- The world of which nothing is said but its name and its seed. -/
def WorldSpec.named (name : String) (seed : UInt64) : WorldSpec :=
  { WorldSpec.default with name := name, seed := seed }

namespace Snapshot

/-- The snapshot with one more world. -/
def addWorld (x : Snapshot) (w : WorldSpec) : Snapshot := { x with worlds := x.worlds ++ [w] }

/-- The snapshot with one more player. -/
def addPlayer (x : Snapshot) (p : PlayerSpec) : Snapshot := { x with players := x.players ++ [p] }

/-- How many mobs and players there are. -/
def population (x : Snapshot) : Nat := (x.worlds.map (·.mobs.length)).sum + x.players.length

variable (x : Snapshot)

theorem population_addWorld (w : WorldSpec) :
    (x.addWorld w).population = x.population + w.mobs.length := by
  simp only [population, addWorld, List.map_append, List.map_singleton, List.sum_append,
    List.sum_singleton]
  omega

theorem population_addPlayer (p : PlayerSpec) :
    (x.addPlayer p).population = x.population + 1 := by
  simp only [population, addPlayer, List.length_append, List.length_singleton]
  omega

end Snapshot

namespace Realm

/-- The mobs of a world as they are. -/
def mobsIn (realm : Realm) (r : Ref .world) : List Mob :=
  (realm.mobsOf r).filterMap realm.mobs.get?

/-- The numbers of the mobs of all worlds, and then those of the players. -/
def roll (realm : Realm) (s : Ref .server) : List UInt32 :=
  (realm.spawnedMobs s).map (·.base.id) ++ (realm.onlinePlayers s).map (·.base.id)

/-- A server that is in order and shows a snapshot. -/
structure Shows (realm : Realm) (s : Ref .server) (x : Snapshot) : Prop where
  order : realm.InOrder s
  server : (realm.servers.get? s).map (fun v => (v.name, v.maxPlayers)) =
    some (x.name, x.maxPlayers)
  worlds : (realm.loadedWorlds s).map World.look = x.worlds.map WorldSpec.look
  mobs : (realm.worldsOf s).map (fun r => (realm.mobsIn r).map Mob.look) =
    x.worlds.map fun w => w.mobs.map MobSpec.look
  players : (realm.onlinePlayers s).map Player.look = x.players.map PlayerSpec.look
  numbers : realm.roll s = numbersUpTo x.population

variable {a b : Realm} {s : Ref .server} {v : Server} {x : Snapshot}

theorem length_roll (a : Realm) (s : Ref .server) :
    (a.roll s).length = (a.entitiesOn s).length := by
  simp [roll, entitiesOn_eq, Nat.add_comm]

theorem length_numbersUpTo (n : Nat) : (numbersUpTo n).length = n := by
  simp [numbersUpTo]

/-- The next number is the one after those of all that are shown. -/
theorem Shows.nextEntityId_eq (h : a.Shows s x) (hv : a.servers.get? s = some v) :
    v.nextEntityId = UInt32.ofNat (x.population + 1) := by
  rw [h.order.next v hv, ← length_roll, h.numbers, length_numbersUpTo]

theorem Shows.map_name_worlds (h : a.Shows s x) :
    (a.loadedWorlds s).map World.name = x.worlds.map WorldSpec.name := by
  have hnames := congrArg (List.map Prod.fst) h.worlds
  rw [List.map_map, List.map_map] at hnames
  exact hnames

theorem Shows.map_name_players (h : a.Shows s x) :
    (a.onlinePlayers s).map (·.base.name) = x.players.map PlayerSpec.name := by
  have hnames := congrArg (List.map Prod.fst) h.players
  rw [List.map_map, List.map_map] at hnames
  exact hnames

theorem Shows.world?_eq_none_iff (h : a.Shows s x) {name : String} :
    a.world? s name = none ↔ ∀ w ∈ x.worlds, ¬Text.sameIgnoringCase w.name name := by
  rw [Realm.world?_eq_none_iff, ← List.forall_mem_map (f := World.name)
    (P := fun n => ¬Text.sameIgnoringCase n name), h.map_name_worlds, List.forall_mem_map]

theorem Shows.player?_eq_none_iff (h : a.Shows s x) {name : String} :
    a.player? s name = none ↔ ∀ p ∈ x.players, ¬Text.sameIgnoringCase p.name name := by
  rw [Realm.player?_eq_none_iff, ← List.forall_mem_map (f := fun p : Player => p.base.name)
    (P := fun n => ¬Text.sameIgnoringCase n name), h.map_name_players, List.forall_mem_map]

/-- The first world of the server is there if one is shown. -/
theorem Shows.defaultWorld?_eq_none_iff (h : a.Shows s x) :
    a.defaultWorld? s = none ↔ x.worlds = [] := by
  have hlength := congrArg List.length h.mobs
  rw [List.length_map, List.length_map] at hlength
  rw [defaultWorld?, List.head?_eq_none_iff, ← List.length_eq_zero_iff, hlength,
    List.length_eq_zero_iff]

theorem Shows.length_players (h : a.Shows s x) (hv : a.servers.get? s = some v) :
    v.players.length = x.players.length := by
  have hlength := congrArg List.length h.players
  rwa [List.length_map, List.length_map, h.order.peopled.length_onlinePlayers hv] at hlength

theorem Shows.maxPlayers_eq (h : a.Shows s x) (hv : a.servers.get? s = some v) :
    v.maxPlayers = x.maxPlayers := by
  have hserver := h.server
  rw [hv, Option.map_some] at hserver
  exact (Prod.mk.inj (Option.some.inj hserver)).2

/-! ## Worlds -/

theorem Shows.withWorld (h : a.Shows s x) {name : String} (hfree : a.world? s name = none)
    (seed : UInt64) :
    (a.withWorld s name seed).Shows s
      (x.addWorld (.named name seed)) := by
  obtain ⟨v, hv⟩ := Option.isSome_iff_exists.1 h.order.peopled.server
  have hspawned := spawnedMobs_withWorld name seed hv
  have hplayers := onlinePlayers_withWorld name seed hv
  have hmobsIn : (a.withWorld s name seed).mobsIn = a.mobsIn := by
    funext r
    rw [mobsIn, mobsOf_withWorld]
    rfl
  have hnone : a.mobsIn a.worlds.next = [] := by
    rw [mobsIn, mobsOf, Table.get?_next]
    rfl
  refine ⟨h.order.withWorld hfree seed, ?server, ?worlds, ?mobs, hplayers ▸ h.players, ?numbers⟩
  case server =>
    have hserver := h.server
    rw [hv] at hserver
    rw [get?_withWorld name seed hv]
    exact hserver
  case worlds =>
    rw [loadedWorlds_withWorld name seed h.order.peopled.isSome_world hv, List.map_append, h.worlds,
      Snapshot.addWorld, List.map_append]
    rfl
  case mobs =>
    rw [worldsOf_withWorld name seed hv, hmobsIn, List.map_append, h.mobs, List.map_singleton,
      hnone, Snapshot.addWorld, List.map_append]
    rfl
  case numbers =>
    rw [roll, hspawned, hplayers, Snapshot.population_addWorld]
    exact h.numbers

/-- A server that shows a snapshot, and whose last world is the one that is built. -/
structure Builds (realm : Realm) (s : Ref .server) (x : Snapshot) (w : WorldSpec)
    (r : Ref .world) : Prop where
  shows : realm.Shows s (x.addWorld w)
  last : ∃ before, realm.worldsOf s = before ++ [r]

variable {w : WorldSpec} {r : Ref .world}

/-- A server stays in order where everyone stays, and all that is changed of worlds, players and
    mobs has nothing to do with names, numbers and places. -/
theorem InOrder.of_stays (h : a.InOrder s) (hstays : Stays a b) (hservers : b.servers = a.servers)
    (hnames : (b.loadedWorlds s).map World.name = (a.loadedWorlds s).map World.name)
    (hspawned : b.spawnedMobs s = a.spawnedMobs s)
    (honline : b.onlinePlayers s = a.onlinePlayers s) : b.InOrder s := by
  have hentities : b.entitiesOn s = a.entitiesOn s := by
    rw [entitiesOn_eq, entitiesOn_eq, hspawned, honline]
  refine ⟨h.peopled.of_stays hstays, ⟨?worlds, honline ▸ h.wellKept.players, ?places⟩,
    hentities ▸ h.numbers, ?next⟩
  case worlds =>
    rw [← List.pairwise_map (f := World.name) (R := fun x y => ¬Text.sameIgnoringCase x y), hnames,
      List.pairwise_map]
    exact h.wellKept.worlds
  case places =>
    rw [hservers, honline]
    exact h.wellKept.places
  case next =>
    rw [hservers, hentities]
    exact h.next

/-- The world that is built is in the list of the server only once. -/
theorem Builds.exists_last (h : a.Builds s x w r) :
    ∃ before, a.worldsOf s = before ++ [r] ∧ r ∉ before := by
  obtain ⟨before, hbefore⟩ := h.last
  have hnodup := h.shows.order.worldsApart.nodup_worldsOf
  rw [hbefore, List.nodup_append_comm, List.singleton_append, List.nodup_cons] at hnodup
  exact ⟨before, hbefore, hnodup.1⟩

section

variable (r) {f : World → World} (hf : ∀ z, (f z).mobs = z.mobs)
include hf

theorem mobsOf_modifyWorld (a : Realm) : (Realm.modifyWorld r f a).2.mobsOf = a.mobsOf := by
  funext q
  exact congrArg (Option.getD · []) (Table.map_get?_modify hf a.worlds r q)

theorem mobsIn_modifyWorld (a : Realm) : (Realm.modifyWorld r f a).2.mobsIn = a.mobsIn := by
  funext q
  rw [mobsIn, mobsOf_modifyWorld r hf]
  rfl

theorem spawnedMobs_modifyWorld (a : Realm) (s : Ref .server) :
    (Realm.modifyWorld r f a).2.spawnedMobs s = a.spawnedMobs s := by
  rw [spawnedMobs, mobsOf_modifyWorld r hf]
  rfl

end

/-- A change of the world that is built, its name and mobs apart. -/
theorem Builds.modifyWorld (h : a.Builds s x w r) {w' : WorldSpec} {f : World → World}
    (hf : ∀ z, (f z).name = z.name ∧ (f z).mobs = z.mobs ∧ (f z).server = z.server)
    (hlook : ∀ z, z.look = w.look → (f z).look = w'.look) (hmobs : w'.mobs = w.mobs) :
    (Realm.modifyWorld r f a).2.Builds s x w' r := by
  obtain ⟨before, hbefore, hr⟩ := h.exists_last
  have hthere := h.shows.order.peopled.isSome_world r (by simp [hbefore])
  obtain ⟨z, hz⟩ := Option.isSome_iff_exists.1 hthere
  have hkept (z : World) : (f z).mobs = z.mobs := (hf z).2.1
  have hspawned := spawnedMobs_modifyWorld r hkept a s
  refine ⟨⟨h.shows.order.of_stays ?stays rfl ?names hspawned rfl, h.shows.server, ?worlds, ?mobs,
    h.shows.players, ?numbers⟩, before, hbefore⟩
  case stays => exact stays_modifyWorld r (fun z => (hf z).2) a
  case names => exact Table.map_filterMap_get?_modify (fun z => (hf z).1) r
  case worlds =>
    have hworlds := h.shows.worlds
    rw [loadedWorlds, hbefore, List.filterMap_append, List.filterMap_cons_some hz,
      List.filterMap_nil, Snapshot.addWorld, map_concat_eq_iff] at hworlds
    have hloaded : (Realm.modifyWorld r f a).2.loadedWorlds s =
        before.filterMap a.worlds.get? ++ [f z] :=
      (congrArg _ hbefore).trans (Table.filterMap_get?_modify_concat hr hz f)
    rw [hloaded, Snapshot.addWorld, map_concat_eq_iff]
    exact ⟨hworlds.1, hlook z hworlds.2⟩
  case mobs =>
    have hshown := h.shows.mobs
    rw [Snapshot.addWorld, List.map_append, List.map_singleton] at hshown ⊢
    rw [mobsIn_modifyWorld r hkept, hmobs]
    exact hshown
  case numbers =>
    rw [Snapshot.population_addWorld, hmobs, ← Snapshot.population_addWorld, ← h.shows.numbers,
      roll, hspawned]
    rfl

theorem Peopled.mobsIn_withMob (h : a.Peopled s) (r q : Ref .world) (m : Mob) :
    (a.withMob r m).mobsIn q =
      a.mobsIn q ++ if q = r ∧ (a.worlds.get? q).isSome then [m] else [] := by
  have hthere : ∀ n ∈ a.mobsOf q, (a.mobs.get? n).isSome := by
    simpa only [List.flatMap_singleton] using h.isSome_mob [q]
  rw [mobsIn, mobsOf_withMob, show (a.withMob r m).mobs.get? = (a.mobs.insert m).get? from rfl]
  split
  · exact Table.filterMap_get?_insert_next hthere m
  · rw [List.append_nil, List.append_nil]
    exact Table.filterMap_get?_insert hthere m

/-- A mob comes to the end of all lists if it comes to the last world. -/
theorem Peopled.spawnedMobs_withMob_last (h : a.Peopled s) {before : List (Ref .world)}
    (hworlds : a.worldsOf s = before ++ [r]) (hr : r ∉ before) (m : Mob) :
    (a.withMob r m).spawnedMobs s = a.spawnedMobs s ++ [m] := by
  have hlast := h.spawnedMobs_withMob r m hworlds (by simpa using hr)
  rwa [← hworlds, List.flatMap_nil, List.filterMap_nil] at hlast

/-- A mob comes to the world that is built, while no players are shown yet. -/
theorem Builds.withMob {m : Mob} (h : a.Builds s x w m.base.location.world)
    (hv : a.servers.get? s = some v) (hnone : x.players = []) (hm : m.base.id = v.nextEntityId)
    {spec : MobSpec} (hlook : m.look = spec.look) :
    ((a.withNumber s (v.nextEntityId + 1)).withMob m.base.location.world m).Builds s x
      { w with mobs := w.mobs ++ [spec] } m.base.location.world := by
  obtain ⟨before, hbefore, hr⟩ := h.exists_last
  have hthere : m.base.location.world ∈ a.worldsOf s := by simp [hbefore]
  set r := m.base.location.world
  set c := a.withNumber s (v.nextEntityId + 1)
  have hpeopled : c.Peopled s := h.shows.order.peopled.withNumber (v.nextEntityId + 1)
  have hworlds : c.worldsOf s = before ++ [r] := (worldsOf_withNumber a s _).trans hbefore
  have hspawned : (c.withMob r m).spawnedMobs s = a.spawnedMobs s ++ [m] := by
    rw [hpeopled.spawnedMobs_withMob_last hworlds hr, spawnedMobs_withNumber]
  have hoffline : a.onlinePlayers s = [] := by
    have hplayers := h.shows.players
    rwa [Snapshot.addWorld, hnone, List.map_nil, List.map_eq_nil_iff] at hplayers
  have hoffline' : (c.withMob r m).onlinePlayers s = [] :=
    (onlinePlayers_withNumber a s _).trans hoffline
  refine ⟨⟨h.shows.order.withMob hv hthere hm, ?server, ?worlds, ?mobs, ?players, ?numbers⟩,
    before, hworlds⟩
  case server =>
    have hserver := h.shows.server
    rw [hv] at hserver
    rw [show (c.withMob r m).servers.get? s = c.servers.get? s from rfl, get?_withNumber hv]
    exact hserver
  case worlds =>
    have hlooks := map_loadedWorlds_withMob (a := c) (s := s) r m (g := World.look)
      (by exact fun _ _ => rfl)
    have hshown := h.shows.worlds
    rw [Snapshot.addWorld, List.map_append] at hshown ⊢
    exact hlooks.trans ((congrArg _ (loadedWorlds_withNumber a s _)).trans hshown)
  case mobs =>
    have hmobs := h.shows.mobs
    rw [hbefore, Snapshot.addWorld, map_concat_eq_iff] at hmobs
    rw [show (c.withMob r m).worldsOf s = before ++ [r] from hworlds, Snapshot.addWorld,
      map_concat_eq_iff, ← hmobs.1]
    refine ⟨List.map_congr_left fun q hq => ?others, ?last⟩
    case others =>
      have hne : q ≠ r := fun heq => hr (heq ▸ hq)
      rw [hpeopled.mobsIn_withMob, if_neg fun hand => hne hand.1, List.append_nil]
      rfl
    case last =>
      have hloaded : (c.worlds.get? r).isSome := h.shows.order.peopled.isSome_world r hthere
      rw [hpeopled.mobsIn_withMob, if_pos ⟨rfl, hloaded⟩, map_concat_eq_iff]
      exact ⟨hmobs.2, hlook⟩
  case players =>
    rw [hoffline', Snapshot.addWorld, hnone]
    rfl
  case numbers =>
    have hroll := h.shows.numbers
    rw [roll, hoffline, List.map_nil, List.append_nil] at hroll
    rw [roll, hspawned, hoffline', List.map_nil, List.append_nil, List.map_append, hroll,
      List.map_singleton, hm, h.shows.nextEntityId_eq hv, Snapshot.population_addWorld,
      Snapshot.population_addWorld, List.length_append, List.length_singleton, ← Nat.add_assoc,
      numbersUpTo_succ]

/-! ## Players -/

theorem Shows.withPlayer {p : Player} (h : a.Shows s x) (hv : a.servers.get? s = some v)
    (hfree : a.player? s p.base.name = none) (hplace : v.players.length < v.maxPlayers.toNat)
    (hp : p.base.id = v.nextEntityId) {spec : PlayerSpec} (hlook : p.look = spec.look) :
    ((a.withNumber s (v.nextEntityId + 1)).withPlayer s p).Shows s (x.addPlayer spec) := by
  have hnumbered := h.order.peopled.withNumber (v.nextEntityId + 1)
  have hv' := get?_withNumber hv (v.nextEntityId + 1)
  have honline := hnumbered.onlinePlayers_withPlayer p hv'
  have hspawned := spawnedMobs_withPlayer p hv'
  rw [onlinePlayers_withNumber] at honline
  rw [spawnedMobs_withNumber] at hspawned
  refine ⟨h.order.withPlayer hv hfree hplace hp, ?server, ?worlds, ?mobs, ?players, ?numbers⟩
  case server =>
    have hserver := h.server
    rw [hv] at hserver
    rw [get?_withPlayer p hv']
    exact hserver
  case worlds =>
    rw [loadedWorlds_withPlayer p hv', loadedWorlds_withNumber]
    exact h.worlds
  case mobs =>
    rw [worldsOf_withPlayer p hv', worldsOf_withNumber]
    exact h.mobs
  case players =>
    rw [honline, List.map_append, h.players, List.map_singleton, hlook, Snapshot.addPlayer,
      List.map_append, List.map_singleton]
  case numbers =>
    have hroll := h.numbers
    rw [roll] at hroll
    rw [roll, hspawned, honline, List.map_append, ← List.append_assoc, hroll, List.map_singleton,
      hp, h.nextEntityId_eq hv, Snapshot.population_addPlayer, numbersUpTo_succ]

/-- Items do not matter. -/
theorem Shows.withItems (h : a.Shows s x) (itemStacks : Stacks)
    (inventories : Table .inventory Inventory) : { a with itemStacks, inventories }.Shows s x := by
  have hstays : Stays a { a with itemStacks, inventories } := stays_of_tables rfl rfl rfl rfl
  exact ⟨h.order.of_stays hstays rfl rfl rfl rfl, h.server, h.worlds, h.mobs, h.players, h.numbers⟩

end Realm

end Chainwalk
