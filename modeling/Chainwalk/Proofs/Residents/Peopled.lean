import Chainwalk.Proofs.Residents.Staying
import Chainwalk.Proofs.Seeds.Loading

/-!
# Servers and who is on them

A server is well *peopled* if all worlds are its own, its players are different ones that are there,
and every mob is in the list of one world only, and there only once. Loading a snapshot makes such a
server, and at first every mob is *at home*: it stands in the world that lists it. While everyone
stays, both are kept. Moving an entity keeps the first but may end the second, namely if the entity
is a mob that is moved to a world that does not list it.

* `Realm.Peopled`, `Realm.AtHome`: the two;
* `Realm.Peopled.of_stays`: they are kept while everyone stays;
* `Snapshot.settled_load`: a server that has been loaded has both;
* `Realm.AtHome.modifyEntity_iff`: what moving an entity does.
-/

namespace Chainwalk

namespace Realm

/-- Worlds, players and mobs of a server as they should be. -/
structure Peopled (realm : Realm) (s : Ref .server) : Prop where
  server : (realm.servers.get? s).isSome
  loaded : ∀ r, r ∈ realm.worldsOf s ↔ (realm.worlds.get? r).isSome
  owner : ∀ r w, realm.worlds.get? r = some w → w.server = some s
  players_nodup : (realm.playersOf s).Nodup
  players : ∀ p ∈ realm.playersOf s, (realm.entity? (.player p)).isSome
  mobs : ∀ r, ∀ m ∈ realm.mobsOf r, (realm.entity? (.mob m)).isSome
  mobs_nodup : ∀ r, (realm.mobsOf r).Nodup
  mobs_apart : ∀ r r' m, m ∈ realm.mobsOf r → m ∈ realm.mobsOf r' → r = r'

/-- Whether all mobs stand in the worlds that list them. -/
def AtHome (realm : Realm) : Prop := ∀ r, ∀ m ∈ realm.mobsOf r, realm.StandsIn (.mob m) r

variable {a b : Realm} {s : Ref .server}

theorem StandsIn.unique {realm : Realm} {e : EntityRef} {r r' : Ref .world}
    (h : realm.StandsIn e r) (h' : realm.StandsIn e r') : r = r' := by
  obtain ⟨x, hx, rfl⟩ := h
  obtain ⟨y, hy, rfl⟩ := h'
  rw [Option.some.inj (hx.symm.trans hy)]

/-! ## While everyone stays -/

theorem Peopled.of_stays (h : a.Peopled s) (hab : Stays a b) : b.Peopled s := by
  have hstill {e : EntityRef} (he : (a.entity? e).isSome) : (b.entity? e).isSome := by
    obtain ⟨x, hx⟩ := Option.isSome_iff_exists.1 he
    obtain ⟨y, hy, -⟩ := hab.entities e x hx
    exact Option.isSome_iff_exists.2 ⟨y, hy⟩
  -- A mob that is listed was listed before, or it is new and stands where it is listed.
  have hlisted {r : Ref .world} {m : Ref .mob} (hm : m ∈ b.mobsOf r) :
      m ∈ a.mobsOf r ∨ a.entity? (.mob m) = none ∧ b.StandsIn (.mob m) r := by
    obtain ⟨new, hnew, -, hin⟩ := hab.spawned r
    rw [hnew] at hm
    exact (List.mem_append.1 hm).imp id (hin m)
  have hold {r : Ref .world} {m : Ref .mob} (hm : m ∈ a.mobsOf r) : a.entity? (.mob m) ≠ none :=
    Option.isSome_iff_ne_none.1 (h.mobs r m hm)
  refine ⟨(hab.servers s).trans h.server, fun r => ?loaded, fun r w hw => ?owner,
    hab.playersOf s ▸ h.players_nodup, fun p hp => ?players, fun r m hm => ?mobs,
    fun r => ?nodup, fun r r' m hm hm' => ?apart⟩
  case loaded =>
    have hsome := congrArg Option.isSome (hab.owners r)
    rw [Option.isSome_map, Option.isSome_map] at hsome
    rw [hab.worldsOf, h.loaded, hsome]
  case owner =>
    have howner := hab.owners r
    rw [hw, Option.map_some] at howner
    obtain ⟨w', hw', heq⟩ := Option.map_eq_some_iff.1 howner.symm
    exact heq ▸ h.owner r w' hw'
  case players => exact hstill (h.players p (hab.playersOf s ▸ hp))
  case mobs =>
    rcases hlisted hm with hm | ⟨-, x, hx, -⟩
    · exact hstill (h.mobs r m hm)
    · exact Option.isSome_iff_exists.2 ⟨x, hx⟩
  case nodup =>
    obtain ⟨new, hnew, hnodup, hin⟩ := hab.spawned r
    rw [hnew]
    exact List.nodup_append'.2 ⟨h.mobs_nodup r, hnodup, fun m hm hm' => hold hm (hin m hm').1⟩
  case apart =>
    rcases hlisted hm with hm | ⟨hnone, hin⟩ <;> rcases hlisted hm' with hm' | ⟨hnone', hin'⟩
    · exact h.mobs_apart r r' m hm hm'
    · exact absurd hnone' (hold hm)
    · exact absurd hnone (hold hm')
    · exact hin.unique hin'

theorem AtHome.of_stays (h : a.AtHome) (hab : Stays a b) : b.AtHome := by
  intro r m hm
  obtain ⟨new, hnew, -, hin⟩ := hab.spawned r
  rw [hnew] at hm
  rcases List.mem_append.1 hm with hm | hm
  · exact hab.standsIn (h r m hm)
  · exact (hin m hm).2

/-! ## Loading -/

/-- A server that is well peopled and whose mobs are at home stays so. -/
def KeepsSettled (s : Ref .server) (a b : Realm) : Prop :=
  a.Peopled s ∧ a.AtHome → b.Peopled s ∧ b.AtHome

instance (s : Ref .server) : IsPreorder Realm (KeepsSettled s) where
  refl _ h := h
  trans _ _ _ hab hbc h := hbc (hab h)

theorem keepsSettled_of_stays {α : Type} {m : RealmM α} (hm : Along Stays m) :
    Along (KeepsSettled s) m :=
  fun realm ⟨hpeopled, hhome⟩ => ⟨hpeopled.of_stays (hm realm), hhome.of_stays (hm realm)⟩

/-- The realm with a new world of a server. -/
def withWorld (realm : Realm) (s : Ref .server) (name : String) (seed : UInt64) : Realm :=
  { realm with
    servers := realm.servers.modify s fun server =>
      { server with worlds := server.worlds ++ [realm.worlds.next] }
    worlds := realm.worlds.insert (.make name seed (some s)) }

/-- A new world lists no mobs. -/
theorem mobsOf_withWorld (realm : Realm) (s : Ref .server) (name : String) (seed : UInt64) :
    (realm.withWorld s name seed).mobsOf = realm.mobsOf := by
  funext r
  rw [withWorld, mobsOf, mobsOf, Table.get?_insert]
  split
  · rename_i heq
    rw [heq, Table.get?_next]
    rfl
  · rfl

theorem Peopled.withWorld (h : a.Peopled s) (name : String) (seed : UInt64) :
    (a.withWorld s name seed).Peopled s := by
  obtain ⟨v, hv⟩ := Option.isSome_iff_exists.1 h.server
  have hserver : (a.withWorld s name seed).servers.get? s =
      some { v with worlds := v.worlds ++ [a.worlds.next] } := by
    rw [Realm.withWorld, Table.get?_modify, if_pos rfl, hv]
    rfl
  have hworlds : (a.withWorld s name seed).worldsOf s = a.worldsOf s ++ [a.worlds.next] := by
    rw [worldsOf, worldsOf, hserver, hv]
    rfl
  have hplayers : (a.withWorld s name seed).playersOf s = a.playersOf s := by
    rw [playersOf, playersOf, hserver, hv]
    rfl
  have hmobs := mobsOf_withWorld a s name seed
  refine ⟨by rw [hserver]; rfl, fun r => ?loaded, fun r w hw => ?owner,
    hplayers ▸ h.players_nodup, fun p hp => h.players p (hplayers ▸ hp), hmobs ▸ h.mobs,
    hmobs ▸ h.mobs_nodup, hmobs ▸ h.mobs_apart⟩
  case loaded =>
    rw [hworlds, List.mem_append, List.mem_singleton, h.loaded, Realm.withWorld, Table.get?_insert]
    split <;> simp [*]
  case owner =>
    rw [Realm.withWorld, Table.get?_insert] at hw
    split at hw
    · obtain rfl := Option.some.inj hw
      rfl
    · exact h.owner r w hw

theorem keepsSettled_createWorld (name : String) (seed : UInt64) :
    Along (KeepsSettled s) (createWorld s name seed) := by
  intro realm
  rw [run_createWorld]
  split
  · exact refl_of (KeepsSettled s) realm
  · rintro ⟨h, hhome⟩
    refine ⟨h.withWorld name seed, fun r m hm => hhome r m ?_⟩
    rwa [← mobsOf_withWorld realm s name seed]

/-- The realm with a new player of a server. -/
def withPlayer (realm : Realm) (s : Ref .server) (p : Player) : Realm :=
  { realm with
    servers := realm.servers.modify s fun server =>
      { server with players := server.players ++ [realm.players.next] }
    players := realm.players.insert p
    inventories := realm.inventories.insert .empty }

theorem Peopled.withPlayer (h : a.Peopled s) (p : Player) : (a.withPlayer s p).Peopled s := by
  obtain ⟨v, hv⟩ := Option.isSome_iff_exists.1 h.server
  have hserver : (a.withPlayer s p).servers.get? s =
      some { v with players := v.players ++ [a.players.next] } := by
    rw [Realm.withPlayer, Table.get?_modify, if_pos rfl, hv]
    rfl
  have hworlds : (a.withPlayer s p).worldsOf s = a.worldsOf s := by
    rw [worldsOf, worldsOf, hserver, hv]
    rfl
  have hplayers : (a.withPlayer s p).playersOf s = a.playersOf s ++ [a.players.next] := by
    rw [playersOf, playersOf, hserver, hv]
    rfl
  refine ⟨by rw [hserver]; rfl, fun r => hworlds ▸ h.loaded r, h.owner, ?nodup,
    fun q hq => ?players, h.mobs, h.mobs_nodup, h.mobs_apart⟩
  case nodup =>
    rw [hplayers, List.nodup_append']
    refine ⟨h.players_nodup, List.nodup_singleton _, fun q hq hnew => ?_⟩
    obtain rfl := List.mem_singleton.1 hnew
    have := h.players _ hq
    rw [entity?, Table.get?_next] at this
    contradiction
  case players =>
    rw [entity?, Option.isSome_map, Realm.withPlayer, Table.get?_insert]
    split
    · rfl
    · rename_i hne
      rw [hplayers, List.mem_append, List.mem_singleton, or_iff_left hne] at hq
      simpa only [entity?, Option.isSome_map] using h.players q hq

theorem keepsSettled_join (name : String) (location : Location) :
    Along (KeepsSettled s) (join s name location) := by
  refine .get_bind fun _ => .guard _ <| (along_getServer s).bind fun _ => .guard _ <|
    (keepsSettled_of_stays (stays_allocateEntityId s)).bind fun id => ?_
  exact fun realm ⟨h, hhome⟩ =>
    ⟨h.withPlayer (.make id name location realm.inventories.next), hhome⟩

end Realm

namespace Snapshot

open Realm

variable {s : Ref .server}

theorem along_forCount {R : Realm → Realm → Prop} [IsPreorder Realm R]
    {action : Int32 → RealmM Unit} (ha : ∀ n, Along R (action n)) (count : Nat) (first : Int) :
    Along R (forCount action count first) := by
  induction count generalizing first with
  | zero => exact .pure _
  | succ count ih => exact (ha _).bind fun _ => ih _

theorem along_loadFill {R : Realm → Realm → Prop} [IsPreorder Realm R] {r : Ref .world}
    {fill : Fill} (hset : ∀ p, Along R (setBlock r p fill.material)) : Along R (loadFill r fill) :=
  along_forCount (fun x => along_forCount (fun y => along_forCount (fun z => hset ⟨x, y, z⟩) _ _)
    _ _) _ _

theorem stays_loadFill (r : Ref .world) (fill : Fill) : Along Stays (loadFill r fill) :=
  along_loadFill fun p => stays_setBlock r p fill.material

theorem stays_furnish (w : WorldSpec) (r : Ref .world) : Along Stays (furnish w r) := by
  refine (stays_modifyWorld r (by exact fun _ => ⟨rfl, rfl⟩)).bind fun _ =>
    (Along.forM (stays_loadFill r) _).bind fun _ => .forM (fun m => ?_) _
  exact (stays_spawnMob r _ _).bind fun _ => .pure _

theorem keepsSettled_loadWorld (w : WorldSpec) : Along (KeepsSettled s) (loadWorld s w) :=
  (keepsSettled_createWorld w.name w.seed).bind fun r => keepsSettled_of_stays (stays_furnish w r)

theorem keepsSettled_loadPlayer (p : PlayerSpec) : Along (KeepsSettled s) (loadPlayer s p) := by
  refine .get_bind fun realm => ?_
  dsimp only
  split
  · exact .throw _
  · refine (keepsSettled_join _ _).bind fun joined => keepsSettled_of_stays ?_
    refine (stays_modifyPlayer joined (by exact fun _ => rfl)).bind fun _ =>
      (along_getPlayer joined).bind fun player => .forM (fun item => ?_) _
    exact (stays_addItems _ _ _).bind fun _ => .pure _

/-- The realm of a new server, with no one on it yet. -/
def started (o : Ref .world → BlockOrder) (name : String) (maxPlayers : UInt32) : Realm :=
  { Realm.ordered o with servers := Table.empty.insert (.make name maxPlayers) }

theorem settled_started (o : Ref .world → BlockOrder) (name : String) (maxPlayers : UInt32) :
    (started o name maxPlayers).Peopled ⟨0⟩ ∧ (started o name maxPlayers).AtHome := by
  have hworlds (r) : (started o name maxPlayers).worlds.get? r = none := Table.get?_empty r
  have hmobs (r) : (started o name maxPlayers).mobsOf r = [] := by
    rw [mobsOf, hworlds]
    rfl
  have hnone : (started o name maxPlayers).worldsOf ⟨0⟩ = [] := rfl
  have hplayers : (started o name maxPlayers).playersOf ⟨0⟩ = [] := rfl
  refine ⟨⟨rfl, fun r => ?loaded, fun r w hw => ?owner, ?_, ?_, ?_, ?_, ?_⟩, ?_⟩
  case loaded => simp [hnone, hworlds]
  case owner => simp [hworlds] at hw
  all_goals simp [AtHome, hplayers, hmobs]

/-- A server that has been loaded is well peopled, and all its mobs are at home. -/
theorem settled_load {snapshot : Snapshot} {o : Ref .world → BlockOrder} {realm : Realm}
    (hload : snapshot.load (.ordered o) = (.ok s, realm)) : realm.Peopled s ∧ realm.AtHome := by
  have hrun : snapshot.load (.ordered o) =
      (snapshot.worlds.forM (loadWorld ⟨0⟩) >>= fun _ =>
        snapshot.players.forM (loadPlayer ⟨0⟩) >>= fun _ => pure ⟨0⟩)
        (started o snapshot.name snapshot.maxPlayers) := rfl
  have hkeeps : Along (KeepsSettled ⟨0⟩) (snapshot.worlds.forM (loadWorld ⟨0⟩) >>= fun _ =>
      snapshot.players.forM (loadPlayer ⟨0⟩) >>= fun _ => (pure ⟨0⟩ : RealmM (Ref .server))) :=
    (Along.forM keepsSettled_loadWorld _).bind fun _ =>
      (Along.forM keepsSettled_loadPlayer _).bind fun _ => .pure _
  have hsettled := hkeeps _ (settled_started o snapshot.name snapshot.maxPlayers)
  rw [← hrun, hload] at hsettled
  rw [hrun, bind_apply] at hload
  -- The one server has the first reference.
  split at hload
  · cases hload
  · rw [bind_apply] at hload
    split at hload
    · cases hload
    · obtain rfl := Except.ok.inj (Prod.mk.inj hload).1
      exact hsettled

end Snapshot

namespace Realm

/-! ## Moving an entity -/

variable {a : Realm} {s : Ref .server} {e : EntityRef} {f : Entity → Entity} {x : Entity}

/-- Wherever an entity is moved, it is there and listed as before. -/
theorem Peopled.modifyEntity (h : a.Peopled s) (e : EntityRef) (f : Entity → Entity) :
    (modifyEntity e f a).2.Peopled s := by
  have hstill {e' : EntityRef} (he : (a.entity? e').isSome) :
      ((Realm.modifyEntity e f a).2.entity? e').isSome := by
    rw [entity?_modifyEntity]
    split
    · rwa [Option.isSome_map]
    · exact he
  rcases e with r | r
  all_goals
    exact ⟨h.server, h.loaded, h.owner, h.players_nodup, fun p hp => hstill (h.players p hp),
      fun r m hm => hstill (h.mobs r m hm), h.mobs_nodup, h.mobs_apart⟩

/-- All mobs are still at home unless one has been moved from its world to another. -/
theorem AtHome.modifyEntity_iff (h : a.AtHome) (hx : a.entity? e = some x) :
    (modifyEntity e f a).2.AtHome ↔
      ¬∃ m r, e = .mob m ∧ m ∈ a.mobsOf r ∧ (f x).location.world ≠ r := by
  have hlists : (modifyEntity e f a).2.mobsOf = a.mobsOf := by cases e <;> rfl
  rw [AtHome, hlists]
  constructor
  · rintro hhome ⟨m, r, rfl, hm, hne⟩
    obtain ⟨y, hy, rfl⟩ := hhome r m hm
    rw [entity?_modifyEntity, if_pos rfl, hx] at hy
    exact hne (congrArg (·.location.world) (Option.some.inj hy))
  · intro hmoved r m hm
    obtain ⟨y, hy, hyr⟩ := h r m hm
    by_cases heq : EntityRef.mob m = e
    · have hr : (f x).location.world = r := not_not.1 fun hne => hmoved ⟨m, r, heq.symm, hm, hne⟩
      refine ⟨f x, ?_, hr⟩
      rw [entity?_modifyEntity, if_pos heq, heq, hx]
      rfl
    · exact ⟨y, by rw [entity?_modifyEntity, if_neg heq, hy], hyr⟩

end Realm

end Chainwalk
