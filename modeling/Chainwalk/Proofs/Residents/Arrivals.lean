import Chainwalk.Proofs.Residents.Census

/-!
# Arrivals

Worlds, players and mobs come to a server one after another. Each of them is either refused, and
then nothing has changed, or comes to the end of its list: a world or a player whose name no other
one has, an entity with the next free number. So the numbers given out are those from one on, in
whatever order worlds, players and mobs come, and as long as they have not come round no two
entities have the same one.

* `Realm.loadedWorlds`, `Realm.onlinePlayers`, `Realm.spawnedMobs`, `Realm.entitiesOn`: those on a
  server as they are;
* `Realm.Peopled.come_cases`: all that an arrival can do;
* `Realm.InOrder`: what arrivals keep, which is more than what they are to keep;
* `Realm.wellKept_after`: names, places and numbers after any arrivals.
-/

namespace Chainwalk

namespace Table

variable {kind : Resident} {α β : Type} {t : Table kind α} {rs : List (Ref kind)}

/-- Who was there is found as before when someone comes. -/
theorem filterMap_get?_insert (hrs : ∀ r ∈ rs, (t.get? r).isSome) (a : α) :
    rs.filterMap (t.insert a).get? = rs.filterMap t.get? := by
  refine List.filterMap_congr fun r hr => ?_
  obtain ⟨b, hb⟩ := Option.isSome_iff_exists.1 (hrs r hr)
  rw [hb, get?_insert_of_get? t hb]

theorem filterMap_get?_insert_next (hrs : ∀ r ∈ rs, (t.get? r).isSome) (a : α) :
    (rs ++ [t.next]).filterMap (t.insert a).get? = rs.filterMap t.get? ++ [a] := by
  rw [List.filterMap_append, filterMap_get?_insert hrs,
    List.filterMap_cons_some (get?_insert_self t a), List.filterMap_nil]

/-- What a change leaves alone of every entry is the same of all of them. -/
theorem map_filterMap_get?_modify {f : α → α} {g : α → β} (hg : ∀ a, g (f a) = g a)
    (r : Ref kind) : (rs.filterMap (t.modify r f).get?).map g = (rs.filterMap t.get?).map g := by
  rw [List.map_filterMap, List.map_filterMap]
  exact List.filterMap_congr fun q _ => map_get?_modify hg t r q

end Table

/-! ## Those on a server -/

namespace Realm

/-- The worlds of a server as they are. -/
def loadedWorlds (realm : Realm) (s : Ref .server) : List World :=
  (realm.worldsOf s).filterMap realm.worlds.get?

/-- The players of a server as they are. -/
def onlinePlayers (realm : Realm) (s : Ref .server) : List Player :=
  (realm.playersOf s).filterMap realm.players.get?

/-- The mobs of all worlds of a server as they are. -/
def spawnedMobs (realm : Realm) (s : Ref .server) : List Mob :=
  ((realm.worldsOf s).flatMap realm.mobsOf).filterMap realm.mobs.get?

/-- All that are on a server as the entities that they are. -/
def entitiesOn (realm : Realm) (s : Ref .server) : List Entity :=
  (realm.inhabitants s).filterMap realm.entity?

variable {a : Realm} {s : Ref .server}

theorem entitiesOn_eq (a : Realm) (s : Ref .server) :
    a.entitiesOn s = (a.onlinePlayers s).map Player.base ++ (a.spawnedMobs s).map Mob.base := by
  rw [entitiesOn, inhabitants, List.filterMap_append, List.filterMap_map, List.filterMap_map,
    onlinePlayers, spawnedMobs, List.map_filterMap, List.map_filterMap]
  rfl

theorem Peopled.isSome_entity (h : a.Peopled s) :
    ∀ e ∈ a.inhabitants s, (a.entity? e).isSome := by
  intro e he
  rcases e with p | m
  · exact h.players p (player_mem_inhabitants.1 he)
  · obtain ⟨r, -, hm⟩ := mob_mem_inhabitants.1 he
    exact h.mobs r m hm

/-- None of those on a server is left out. -/
theorem Peopled.length_entitiesOn (h : a.Peopled s) :
    (a.entitiesOn s).length = (a.inhabitants s).length := by
  rw [entitiesOn, List.length_filterMap_eq_countP, List.countP_eq_length.2 h.isSome_entity]

theorem Peopled.isSome_world (h : a.Peopled s) : ∀ r ∈ a.worldsOf s, (a.worlds.get? r).isSome :=
  fun r hr => (h.loaded r).1 hr

theorem Peopled.isSome_player (h : a.Peopled s) :
    ∀ p ∈ a.playersOf s, (a.players.get? p).isSome := by
  intro p hp
  simpa [entity?] using h.players p hp

theorem Peopled.isSome_mob (h : a.Peopled s) (rs : List (Ref .world)) :
    ∀ m ∈ rs.flatMap a.mobsOf, (a.mobs.get? m).isSome := by
  intro m hm
  obtain ⟨r, -, hm⟩ := List.mem_flatMap.1 hm
  simpa [entity?] using h.mobs r m hm

/-- Names are free that no world has. -/
theorem world?_eq_none_iff {name : String} :
    a.world? s name = none ↔ ∀ w ∈ a.loadedWorlds s, ¬Text.sameIgnoringCase w.name name := by
  simp only [world?, loadedWorlds, List.find?_eq_none, List.mem_filterMap, Option.any_eq_true]
  grind

theorem player?_eq_none_iff {name : String} :
    a.player? s name = none ↔
      ∀ p ∈ a.onlinePlayers s, ¬Text.sameIgnoringCase p.base.name name := by
  simp only [player?, onlinePlayers, List.find?_eq_none, List.mem_filterMap, Option.any_eq_true]
  grind

/-! ## The changes -/

/-- The realm where a server gives out its numbers from `n` on. -/
def withNumber (realm : Realm) (s : Ref .server) (n : UInt32) : Realm :=
  { realm with servers := realm.servers.modify s fun v => { v with nextEntityId := n } }

variable {v : Server}

theorem get?_withNumber (hv : a.servers.get? s = some v) (n : UInt32) :
    (a.withNumber s n).servers.get? s = some { v with nextEntityId := n } := by
  rw [withNumber, Table.get?_modify, if_pos rfl, hv]
  rfl

theorem worldsOf_withNumber (a : Realm) (s : Ref .server) (n : UInt32) :
    (a.withNumber s n).worldsOf s = a.worldsOf s := by
  rw [worldsOf, worldsOf]
  exact congrArg (Option.getD · []) (Table.map_get?_modify (by exact fun _ => rfl) _ s s)

theorem playersOf_withNumber (a : Realm) (s : Ref .server) (n : UInt32) :
    (a.withNumber s n).playersOf s = a.playersOf s := by
  rw [playersOf, playersOf]
  exact congrArg (Option.getD · []) (Table.map_get?_modify (by exact fun _ => rfl) _ s s)

theorem Peopled.withNumber (h : a.Peopled s) (n : UInt32) : (a.withNumber s n).Peopled s := by
  refine h.of_stays (stays_modifyServer s (f := fun v => { v with nextEntityId := n }) ?_ a)
  exact fun _ => rfl

theorem run_allocateEntityId (hv : a.servers.get? s = some v) :
    allocateEntityId s a = (.ok v.nextEntityId, a.withNumber s (v.nextEntityId + 1)) := by
  rw [allocateEntityId, bind_apply, run_getServer, hv]
  rfl

theorem run_join (name : String) (l : Location) (hv : a.servers.get? s = some v) :
    join s name l a =
      if (a.player? s name).isSome then (.error (.playerOnline name), a)
      else if v.maxPlayers.toNat ≤ v.players.length then (.error .serverFull, a)
      else
        (.ok a.players.next, (a.withNumber s (v.nextEntityId + 1)).withPlayer s
          (.make v.nextEntityId name l a.inventories.next)) := by
  change (if (a.player? s name).isSome then _ else _ : RealmM (Ref .player)) a = _
  split
  · rfl
  · rw [bind_apply, run_getServer, hv]
    dsimp only
    split
    · rfl
    · rw [bind_apply, run_allocateEntityId hv]
      rfl

/-- A mob comes to a world of a server. -/
theorem Peopled.run_spawnMob (h : a.Peopled s) (hv : a.servers.get? s = some v) (r : Ref .world)
    (kind : MobType) (l : Location) :
    spawnMob r kind l a =
      match a.worlds.get? r with
      | none => (.error .unloaded, a)
      | some w =>
        if l.world ≠ r then (.error (.notInWorld w.name), a)
        else
          (.ok a.mobs.next,
            (a.withNumber s (v.nextEntityId + 1)).withMob r (.make v.nextEntityId kind l)) := by
  rw [spawnMob, bind_apply, run_getWorld]
  rcases hw : a.worlds.get? r with _ | w
  · rfl
  · have hserver : a.serverOf? w = some s := by
      rw [serverOf?, h.owner r w hw]
      simp [h.server]
    dsimp only
    split
    · rfl
    · have hget : (get : RealmM Realm) a = (.ok a, a) := rfl
      rw [bind_apply, hget]
      dsimp only
      rw [hserver]
      dsimp only
      rw [bind_apply, run_allocateEntityId hv]
      rfl

/-! ### Numbers -/

@[simp] theorem loadedWorlds_withNumber (a : Realm) (s : Ref .server) (n : UInt32) :
    (a.withNumber s n).loadedWorlds s = a.loadedWorlds s := by
  rw [loadedWorlds, worldsOf_withNumber]
  rfl

@[simp] theorem onlinePlayers_withNumber (a : Realm) (s : Ref .server) (n : UInt32) :
    (a.withNumber s n).onlinePlayers s = a.onlinePlayers s := by
  rw [onlinePlayers, playersOf_withNumber]
  rfl

@[simp] theorem spawnedMobs_withNumber (a : Realm) (s : Ref .server) (n : UInt32) :
    (a.withNumber s n).spawnedMobs s = a.spawnedMobs s := by
  rw [spawnedMobs, worldsOf_withNumber]
  rfl

/-! ### Worlds -/

section

variable (name : String) (seed : UInt64)

theorem get?_withWorld (hv : a.servers.get? s = some v) :
    (a.withWorld s name seed).servers.get? s =
      some { v with worlds := v.worlds ++ [a.worlds.next] } := by
  rw [withWorld, Table.get?_modify, if_pos rfl, hv]
  rfl

theorem worldsOf_withWorld (hv : a.servers.get? s = some v) :
    (a.withWorld s name seed).worldsOf s = a.worldsOf s ++ [a.worlds.next] := by
  rw [worldsOf, worldsOf, get?_withWorld name seed hv, hv]
  rfl

theorem loadedWorlds_withWorld (hthere : ∀ r ∈ a.worldsOf s, (a.worlds.get? r).isSome)
    (hv : a.servers.get? s = some v) :
    (a.withWorld s name seed).loadedWorlds s = a.loadedWorlds s ++ [.make name seed (some s)] := by
  rw [loadedWorlds, worldsOf_withWorld name seed hv]
  exact Table.filterMap_get?_insert_next hthere _

theorem onlinePlayers_withWorld (hv : a.servers.get? s = some v) :
    (a.withWorld s name seed).onlinePlayers s = a.onlinePlayers s := by
  rw [onlinePlayers, onlinePlayers, playersOf, playersOf, get?_withWorld name seed hv, hv]
  rfl

/-- No mobs come with a world. -/
theorem spawnedMobs_withWorld (hv : a.servers.get? s = some v) :
    (a.withWorld s name seed).spawnedMobs s = a.spawnedMobs s := by
  have hnone : a.mobsOf a.worlds.next = [] := by
    rw [mobsOf, Table.get?_next]
    rfl
  rw [spawnedMobs, worldsOf_withWorld name seed hv, mobsOf_withWorld, List.flatMap_append,
    List.flatMap_singleton, hnone, List.append_nil]
  rfl

end

/-! ### Players -/

section

variable (p : Player)

theorem get?_withPlayer (hv : a.servers.get? s = some v) :
    (a.withPlayer s p).servers.get? s =
      some { v with players := v.players ++ [a.players.next] } := by
  rw [withPlayer, Table.get?_modify, if_pos rfl, hv]
  rfl

theorem worldsOf_withPlayer (hv : a.servers.get? s = some v) :
    (a.withPlayer s p).worldsOf s = a.worldsOf s := by
  rw [worldsOf, worldsOf, get?_withPlayer p hv, hv]
  rfl

theorem loadedWorlds_withPlayer (hv : a.servers.get? s = some v) :
    (a.withPlayer s p).loadedWorlds s = a.loadedWorlds s := by
  rw [loadedWorlds, worldsOf_withPlayer p hv]
  rfl

theorem Peopled.onlinePlayers_withPlayer (h : a.Peopled s) (hv : a.servers.get? s = some v) :
    (a.withPlayer s p).onlinePlayers s = a.onlinePlayers s ++ [p] := by
  have hplayers : (a.withPlayer s p).playersOf s = a.playersOf s ++ [a.players.next] := by
    rw [playersOf, playersOf, get?_withPlayer p hv, hv]
    rfl
  rw [onlinePlayers, hplayers]
  exact Table.filterMap_get?_insert_next h.isSome_player _

theorem spawnedMobs_withPlayer (hv : a.servers.get? s = some v) :
    (a.withPlayer s p).spawnedMobs s = a.spawnedMobs s := by
  rw [spawnedMobs, worldsOf_withPlayer p hv]
  rfl

end

/-! ### Mobs -/

section

variable (r : Ref .world) (m : Mob)

theorem map_loadedWorlds_withMob {β : Type} {g : World → β}
    (hg : ∀ w mobs, g { w with mobs := mobs } = g w) :
    ((a.withMob r m).loadedWorlds s).map g = (a.loadedWorlds s).map g :=
  Table.map_filterMap_get?_modify (by exact fun w => hg w _) r

/-- A mob comes to the end of the list of its world. -/
theorem Peopled.spawnedMobs_withMob (h : a.Peopled s) {before after : List (Ref .world)}
    (hworlds : a.worldsOf s = before ++ r :: after) (hr : r ∉ before ++ after) :
    (a.withMob r m).spawnedMobs s =
      ((before ++ [r]).flatMap a.mobsOf).filterMap a.mobs.get? ++
        m :: (after.flatMap a.mobsOf).filterMap a.mobs.get? := by
  have hthere : (a.worlds.get? r).isSome := h.isSome_world r (by simp [hworlds])
  -- The lists of the other worlds are as before.
  have hothers {rs : List (Ref .world)} (hrs : r ∉ rs) :
      rs.flatMap (a.withMob r m).mobsOf = rs.flatMap a.mobsOf := by
    refine List.flatMap_congr fun q hq => ?_
    have hne : q ≠ r := fun heq => hrs (heq ▸ hq)
    rw [mobsOf_withMob, if_neg fun hand => hne hand.1, List.append_nil]
  rw [List.mem_append, not_or] at hr
  have hlists : (a.worldsOf s).flatMap (a.withMob r m).mobsOf =
      (before ++ [r]).flatMap a.mobsOf ++ [a.mobs.next] ++ after.flatMap a.mobsOf := by
    rw [hworlds, List.flatMap_append, List.flatMap_cons, hothers hr.1, hothers hr.2,
      mobsOf_withMob, if_pos ⟨rfl, hthere⟩, List.flatMap_append, List.flatMap_singleton]
    simp only [List.append_assoc]
  rw [spawnedMobs, show (a.withMob r m).worldsOf s = a.worldsOf s from rfl, hlists,
    List.filterMap_append,
    show (a.withMob r m).mobs.get? = (a.mobs.insert m).get? from rfl,
    Table.filterMap_get?_insert_next (h.isSome_mob _), Table.filterMap_get?_insert (h.isSome_mob _),
    List.append_assoc, List.singleton_append]

theorem Peopled.spawnedMobs_withMob_perm (h : a.Peopled s) (hnodup : (a.worldsOf s).Nodup)
    (hr : r ∈ a.worldsOf s) :
    ((a.withMob r m).spawnedMobs s).Perm (a.spawnedMobs s ++ [m]) := by
  obtain ⟨before, after, hsplit⟩ := List.append_of_mem hr
  rw [hsplit, List.nodup_middle, List.nodup_cons] at hnodup
  have hmobs : a.spawnedMobs s = ((before ++ [r]).flatMap a.mobsOf).filterMap a.mobs.get? ++
      (after.flatMap a.mobsOf).filterMap a.mobs.get? := by
    rw [spawnedMobs, hsplit, ← List.filterMap_append, ← List.flatMap_append, List.append_assoc,
      List.singleton_append]
  rw [h.spawnedMobs_withMob r m hsplit hnodup.1, hmobs]
  exact List.perm_middle.trans (List.perm_append_singleton _ _).symm

end

end Realm

/-! ## Arrivals -/

/-- Whoever may come to a server, and what comes with it. -/
inductive Arrival
  | world (name : String) (seed : UInt64)
  | player (name : String) (location : Location)
  | mob (r : Ref .world) (kind : MobType) (location : Location)

/-- Lets someone come to a server. -/
def Arrival.come (s : Ref .server) : Arrival → RealmM Unit
  | world name seed => do
    let _ ← Realm.createWorld s name seed
  | player name location => do
    let _ ← Realm.join s name location
  | mob r kind location => do
    let _ ← Realm.spawnMob r kind location

namespace Realm

/-- The realm after arrivals on a server, those that are refused among them. -/
def after (realm : Realm) (s : Ref .server) (arrivals : List Arrival) : Realm :=
  arrivals.foldl (fun realm x => (x.come s realm).2) realm

variable {a : Realm} {s : Ref .server} {v : Server}

/-- Who comes is refused, and nothing is changed, or comes as a world or a player of a new name, or
    as a mob to a world of the server. -/
theorem Peopled.come_cases (h : a.Peopled s) (hv : a.servers.get? s = some v) (x : Arrival) :
    (∃ refusal, x.come s a = (.error refusal, a)) ∨
      (∃ name seed, x = .world name seed ∧ a.world? s name = none ∧
        x.come s a = (.ok (), a.withWorld s name seed)) ∨
      (∃ name l, x = .player name l ∧ a.player? s name = none ∧
        v.players.length < v.maxPlayers.toNat ∧
        x.come s a = (.ok (), (a.withNumber s (v.nextEntityId + 1)).withPlayer s
          (.make v.nextEntityId name l a.inventories.next))) ∨
      ∃ r kind l, x = .mob r kind l ∧ l.world = r ∧ r ∈ a.worldsOf s ∧
        x.come s a = (.ok (), (a.withNumber s (v.nextEntityId + 1)).withMob r
          (.make v.nextEntityId kind l)) := by
  cases x with
  | world name seed =>
    rw [Arrival.come, bind_apply, run_createWorld]
    by_cases htaken : (a.world? s name).isSome
    · exact .inl ⟨_, by rw [if_pos htaken]⟩
    · exact .inr (.inl ⟨name, seed, rfl, Option.not_isSome_iff_eq_none.1 htaken,
        by rw [if_neg htaken]; rfl⟩)
  | player name l =>
    rw [Arrival.come, bind_apply, run_join name l hv]
    by_cases htaken : (a.player? s name).isSome
    · exact .inl ⟨_, by rw [if_pos htaken]⟩
    · rw [if_neg htaken]
      by_cases hfull : v.maxPlayers.toNat ≤ v.players.length
      · exact .inl ⟨_, by rw [if_pos hfull]⟩
      · exact .inr (.inr (.inl ⟨name, l, rfl, Option.not_isSome_iff_eq_none.1 htaken,
          Nat.lt_of_not_le hfull, by rw [if_neg hfull]; rfl⟩))
  | mob r kind l =>
    rw [Arrival.come, bind_apply, h.run_spawnMob hv]
    rcases hw : a.worlds.get? r with _ | w
    · exact .inl ⟨_, rfl⟩
    · dsimp only
      by_cases helsewhere : l.world ≠ r
      · exact .inl ⟨_, by rw [if_pos helsewhere]⟩
      · exact .inr (.inr (.inr ⟨r, kind, l, rfl, not_not.1 helsewhere,
          (h.loaded r).2 (by rw [hw]; rfl), by rw [if_neg helsewhere]; rfl⟩))

/-! ### Names and places -/

/-- Names and places as they are to be on a server. -/
structure WellKept (realm : Realm) (s : Ref .server) : Prop where
  worlds : (realm.loadedWorlds s).Pairwise fun w w' => ¬Text.sameIgnoringCase w.name w'.name
  players : (realm.onlinePlayers s).Pairwise fun p p' =>
    ¬Text.sameIgnoringCase p.base.name p'.base.name
  places : ∀ v, realm.servers.get? s = some v →
    (realm.onlinePlayers s).length ≤ v.maxPlayers.toNat

/-- The worlds of a server are there, and have different names. -/
structure WorldsApart (realm : Realm) (s : Ref .server) : Prop where
  server : (realm.servers.get? s).isSome
  there : ∀ r ∈ realm.worldsOf s, (realm.worlds.get? r).isSome
  names : (realm.loadedWorlds s).Pairwise fun w w' => ¬Text.sameIgnoringCase w.name w'.name

/-- No world is in the list of a server twice. -/
theorem WorldsApart.nodup_worldsOf (h : a.WorldsApart s) : (a.worldsOf s).Nodup := by
  have hnames := h.names
  rw [loadedWorlds, List.pairwise_filterMap] at hnames
  refine hnames.imp_of_mem fun {r r'} hr _ hne heq => ?_
  obtain ⟨w, hw⟩ := Option.isSome_iff_exists.1 (h.there r hr)
  exact hne w hw w (heq ▸ hw) (Text.sameIgnoringCase_refl _)

/-- A world of a new name comes. -/
theorem WorldsApart.withWorld (h : a.WorldsApart s) {name : String}
    (hfree : a.world? s name = none) (seed : UInt64) :
    (a.withWorld s name seed).WorldsApart s := by
  obtain ⟨v, hv⟩ := Option.isSome_iff_exists.1 h.server
  refine ⟨by rw [get?_withWorld name seed hv]; rfl, fun r hr => ?there, ?names⟩
  case there =>
    rw [worldsOf_withWorld name seed hv, List.mem_append, List.mem_singleton] at hr
    rw [Realm.withWorld, Table.get?_insert]
    split
    · rfl
    · rename_i hne
      exact h.there r (hr.resolve_right hne)
  case names =>
    rw [loadedWorlds_withWorld name seed h.there hv, List.pairwise_append]
    refine ⟨h.names, List.pairwise_singleton _ _, fun w hw w' hw' => ?_⟩
    obtain rfl := List.mem_singleton.1 hw'
    exact world?_eq_none_iff.1 hfree w hw

theorem Peopled.length_onlinePlayers (h : a.Peopled s) (hv : a.servers.get? s = some v) :
    (a.onlinePlayers s).length = v.players.length := by
  have hplayers : a.playersOf s = v.players := by
    rw [playersOf, hv]
    rfl
  rw [onlinePlayers, List.length_filterMap_eq_countP, List.countP_eq_length.2 h.isSome_player,
    hplayers]

/-! ### Numbers -/

/-- Numbers of entities as they are to be on a server. -/
structure Numbered (realm : Realm) (s : Ref .server) : Prop where
  ne_zero : ∀ x ∈ realm.entitiesOn s, x.id ≠ 0
  nodup : ((realm.entitiesOn s).map Entity.id).Nodup
  lt_next : ∀ v, realm.servers.get? s = some v → ∀ x ∈ realm.entitiesOn s, x.id < v.nextEntityId
  ports : ∀ p ∈ realm.onlinePlayers s, 50000 + p.base.id.toNat < UInt32.size
  addresses : ∀ p ∈ realm.onlinePlayers s,
    p.address = "127.0.0.1:" ++ toString (50000 + p.base.id.toNat)

/-- The numbers from one on. -/
def numbersUpTo (n : Nat) : List UInt32 := (List.range' 1 n).map UInt32.ofNat

theorem numbersUpTo_succ (n : Nat) :
    numbersUpTo (n + 1) = numbersUpTo n ++ [UInt32.ofNat (n + 1)] := by
  rw [numbersUpTo, List.range'_1_concat, List.map_append, Nat.add_comm 1 n]
  rfl

theorem toNat_mem_numbersUpTo {n : Nat} (hn : n < UInt32.size) {id : UInt32}
    (hid : id ∈ numbersUpTo n) : 1 ≤ id.toNat ∧ id.toNat ≤ n := by
  obtain ⟨i, hi, rfl⟩ := List.mem_map.1 hid
  rw [List.mem_range'_1] at hi
  rw [UInt32.toNat_ofNat_of_lt' (by omega)]
  omega

/-- Before the numbers come round they are different. -/
theorem nodup_numbersUpTo {n : Nat} (hn : n < UInt32.size) : (numbersUpTo n).Nodup := by
  refine List.Nodup.map_on (fun i hi j hj hij => ?_) List.nodup_range'
  rw [List.mem_range'_1] at hi hj
  have := congrArg UInt32.toNat hij
  rwa [UInt32.toNat_ofNat_of_lt' (by omega), UInt32.toNat_ofNat_of_lt' (by omega)] at this

/-- A server that is well peopled and well kept, whose entities have the numbers from one on. -/
structure InOrder (realm : Realm) (s : Ref .server) : Prop where
  peopled : realm.Peopled s
  wellKept : realm.WellKept s
  numbers : ((realm.entitiesOn s).map Entity.id).Perm (numbersUpTo (realm.entitiesOn s).length)
  next : ∀ v, realm.servers.get? s = some v →
    v.nextEntityId = UInt32.ofNat ((realm.entitiesOn s).length + 1)

theorem InOrder.worldsApart (h : a.InOrder s) : a.WorldsApart s :=
  ⟨h.peopled.server, h.peopled.isSome_world, h.wellKept.worlds⟩

/-- A port is the sum of two numbers, as long as these have room for it. -/
theorem address_eq {p : Player} (hport : 50000 + p.base.id.toNat < UInt32.size) :
    p.address = "127.0.0.1:" ++ toString (50000 + p.base.id.toNat) := by
  have hsum : (50000 + p.base.id).toNat = 50000 + p.base.id.toNat := by
    rw [UInt32.toNat_add]
    exact Nat.mod_eq_of_lt hport
  rw [Player.address, hsum]

/-- The numbers of a server in order are as they are to be, as long as they and the ports have not
    come round. -/
theorem InOrder.numbered (h : a.InOrder s)
    (hcount : (a.entitiesOn s).length < UInt32.size - 50000) : a.Numbered s := by
  have hsize : UInt32.size = 4294967296 := rfl
  have hlt : (a.entitiesOn s).length < UInt32.size := by omega
  have hbounds {x : Entity} (hx : x ∈ a.entitiesOn s) :
      1 ≤ x.id.toNat ∧ x.id.toNat ≤ (a.entitiesOn s).length :=
    toNat_mem_numbersUpTo hlt (h.numbers.mem_iff.1 (List.mem_map_of_mem hx))
  have hport {p : Player} (hp : p ∈ a.onlinePlayers s) :
      50000 + p.base.id.toNat < UInt32.size := by
    have hp : p.base ∈ a.entitiesOn s := by
      rw [entitiesOn_eq]
      exact List.mem_append_left _ (List.mem_map_of_mem hp)
    have := (hbounds hp).2
    omega
  refine ⟨fun x hx hzero => ?ne_zero, h.numbers.nodup_iff.2 (nodup_numbersUpTo hlt),
    fun v hv x hx => ?lt_next, fun p => hport, fun p hp => address_eq (hport hp)⟩
  case ne_zero =>
    have := (hbounds hx).1
    rw [hzero] at this
    contradiction
  case lt_next =>
    rw [UInt32.lt_iff_toNat_lt, h.next v hv, UInt32.toNat_ofNat_of_lt' (by omega)]
    exact Nat.lt_succ_of_le (hbounds hx).2

/-! ### Everyone in order -/

/-- Whoever comes with the next number. -/
theorem InOrder.admitted {b : Realm} {x : Entity} (h : a.InOrder s)
    (hv : a.servers.get? s = some v) (hpeopled : b.Peopled s) (hkept : b.WellKept s)
    (hx : x.id = v.nextEntityId) (hentities : (b.entitiesOn s).Perm (a.entitiesOn s ++ [x]))
    (hnext : ∀ u, b.servers.get? s = some u → u.nextEntityId = v.nextEntityId + 1) :
    b.InOrder s := by
  have hlength : (b.entitiesOn s).length = (a.entitiesOn s).length + 1 := by
    rw [hentities.length_eq, List.length_append, List.length_singleton]
  refine ⟨hpeopled, hkept, ?_, fun u hu => ?_⟩
  · rw [hlength, numbersUpTo_succ]
    refine (hentities.map Entity.id).trans ?_
    rw [List.map_append, List.map_singleton, hx, h.next v hv]
    exact h.numbers.append_right _
  · rw [hnext u hu, h.next v hv, hlength]
    exact (UInt32.ofNat_add _ 1).symm

theorem InOrder.withWorld (h : a.InOrder s) {name : String} (hfree : a.world? s name = none)
    (seed : UInt64) : (a.withWorld s name seed).InOrder s := by
  obtain ⟨v, hv⟩ := Option.isSome_iff_exists.1 h.peopled.server
  have hserver := get?_withWorld name seed hv
  have hplayers := onlinePlayers_withWorld name seed hv
  have hentities : (a.withWorld s name seed).entitiesOn s = a.entitiesOn s := by
    rw [entitiesOn_eq, entitiesOn_eq, hplayers, spawnedMobs_withWorld name seed hv]
  refine ⟨h.peopled.withWorld name seed,
    ⟨?worlds, hplayers ▸ h.wellKept.players, fun u hu => ?places⟩, hentities ▸ h.numbers,
    fun u hu => ?next⟩
  case worlds =>
    exact (h.worldsApart.withWorld hfree seed).names
  all_goals obtain rfl := Option.some.inj (hserver.symm.trans hu)
  case places => exact hplayers ▸ h.wellKept.places v hv
  case next => exact hentities ▸ h.next v hv

theorem InOrder.withPlayer (h : a.InOrder s) (hv : a.servers.get? s = some v) {p : Player}
    (hfree : a.player? s p.base.name = none) (hplace : v.players.length < v.maxPlayers.toNat)
    (hp : p.base.id = v.nextEntityId) :
    ((a.withNumber s (v.nextEntityId + 1)).withPlayer s p).InOrder s := by
  have hnumbered := h.peopled.withNumber (v.nextEntityId + 1)
  have hv' := get?_withNumber hv (v.nextEntityId + 1)
  have hserver := get?_withPlayer p hv'
  have hplayers := hnumbered.onlinePlayers_withPlayer p hv'
  rw [onlinePlayers_withNumber] at hplayers
  refine h.admitted hv (hnumbered.withPlayer p) ⟨?worlds, ?players, fun u hu => ?places⟩ hp
    ?entities fun u hu => ?next
  case worlds =>
    rw [loadedWorlds_withPlayer p hv', loadedWorlds_withNumber]
    exact h.wellKept.worlds
  case players =>
    rw [hplayers, List.pairwise_append]
    refine ⟨h.wellKept.players, List.pairwise_singleton _ _, fun q hq q' hq' => ?_⟩
    obtain rfl := List.mem_singleton.1 hq'
    exact player?_eq_none_iff.1 hfree q hq
  case entities =>
    -- The player comes to the end of the players, and the mobs are listed after them.
    rw [entitiesOn_eq, entitiesOn_eq, hplayers, spawnedMobs_withPlayer p hv',
      spawnedMobs_withNumber, List.map_append, List.map_singleton, List.append_assoc,
      List.append_assoc]
    exact List.perm_append_comm.append_left _
  all_goals obtain rfl := Option.some.inj (hserver.symm.trans hu)
  case places =>
    rw [hplayers, List.length_append, List.length_singleton, h.peopled.length_onlinePlayers hv]
    exact hplace
  case next => rfl

theorem InOrder.withMob (h : a.InOrder s) (hv : a.servers.get? s = some v) {m : Mob}
    (hworld : m.base.location.world ∈ a.worldsOf s) (hm : m.base.id = v.nextEntityId) :
    ((a.withNumber s (v.nextEntityId + 1)).withMob m.base.location.world m).InOrder s := by
  have hnumbered := h.peopled.withNumber (v.nextEntityId + 1)
  have hv' := get?_withNumber hv (v.nextEntityId + 1)
  have hworlds := worldsOf_withNumber a s (v.nextEntityId + 1)
  have hmobs := hnumbered.spawnedMobs_withMob_perm m.base.location.world m
    (by rw [hworlds]; exact h.worldsApart.nodup_worldsOf) (by rwa [hworlds])
  rw [spawnedMobs_withNumber] at hmobs
  have hplayers : ((a.withNumber s (v.nextEntityId + 1)).withMob m.base.location.world
    m).onlinePlayers s = a.onlinePlayers s := onlinePlayers_withNumber a s _
  have hpeopled := hnumbered.of_stays (stays_withMob (a.withNumber s (v.nextEntityId + 1)) m)
  refine h.admitted hv hpeopled ⟨?worlds, ?players, fun u hu => ?places⟩ hm ?entities
    fun u hu => ?next
  case worlds =>
    have hnames := map_loadedWorlds_withMob (a := a.withNumber s (v.nextEntityId + 1)) (s := s)
      m.base.location.world m (g := World.name) fun _ _ => rfl
    rw [loadedWorlds_withNumber] at hnames
    rw [← List.pairwise_map (f := World.name) (R := fun x y => ¬Text.sameIgnoringCase x y), hnames,
      List.pairwise_map]
    exact h.wellKept.worlds
  case players => exact hplayers ▸ h.wellKept.players
  case entities =>
    rw [entitiesOn_eq, entitiesOn_eq, hplayers, List.append_assoc, ← List.map_singleton,
      ← List.map_append]
    exact (hmobs.map Mob.base).append_left _
  all_goals obtain rfl := Option.some.inj (hv'.symm.trans hu)
  case places => exact hplayers ▸ h.wellKept.places v hv
  case next => rfl

theorem InOrder.come (h : a.InOrder s) (x : Arrival) : (x.come s a).2.InOrder s := by
  obtain ⟨v, hv⟩ := Option.isSome_iff_exists.1 h.peopled.server
  obtain ⟨refusal, hx⟩ | ⟨name, seed, -, hfree, hx⟩ | ⟨name, l, -, hfree, hplace, hx⟩ |
    ⟨r, kind, l, -, hl, hr, hx⟩ := h.peopled.come_cases hv x
  · exact hx ▸ h
  · exact hx ▸ h.withWorld hfree seed
  · exact hx ▸ h.withPlayer hv hfree hplace rfl
  · subst hl
    exact hx ▸ h.withMob hv (m := .make v.nextEntityId kind l) hr rfl

theorem InOrder.after (h : a.InOrder s) (arrivals : List Arrival) :
    (a.after s arrivals).InOrder s := by
  induction arrivals generalizing a with
  | nil => exact h
  | cons x rest ih => exact ih (h.come x)

/-- A server that no one has come to yet. -/
theorem inOrder_started (o : Ref .world → BlockOrder) (name : String) (maxPlayers : UInt32) :
    (Snapshot.started o name maxPlayers).InOrder ⟨0⟩ := by
  have hworlds : (Snapshot.started o name maxPlayers).worldsOf ⟨0⟩ = [] := rfl
  have hplayers : (Snapshot.started o name maxPlayers).playersOf ⟨0⟩ = [] := rfl
  have hentities : (Snapshot.started o name maxPlayers).entitiesOn ⟨0⟩ = [] := rfl
  refine ⟨(Snapshot.settled_started o name maxPlayers).1, ⟨?_, ?_, ?_⟩, ?_, fun v hv => ?_⟩
  · simp [loadedWorlds, hworlds]
  · simp [onlinePlayers, hplayers]
  · simp [onlinePlayers, hplayers]
  · rw [hentities]
    exact .nil
  · obtain rfl := Option.some.inj hv
    rw [hentities]
    rfl

/-- Whoever comes to a new server, in whatever order and whoever of them is refused, the worlds have
    different names, and so have the players, who are no more than there are places for; the numbers
    of entities are different ones below the next one, and the ports of players are ports, unless so
    many have come that the numbers come round. Whoever is refused changes nothing. No one leaves,
    so those that are on the server are all that have come. -/
theorem wellKept_after (o : Ref .world → BlockOrder) (name : String) (maxPlayers : UInt32)
    (arrivals : List Arrival) :
    let realm := (Snapshot.started o name maxPlayers).after ⟨0⟩ arrivals
    realm.Peopled ⟨0⟩ ∧ realm.WellKept ⟨0⟩ ∧
      ((realm.inhabitants ⟨0⟩).length < UInt32.size - 50000 → realm.Numbered ⟨0⟩) ∧
      ∀ (x : Arrival) (refusal : Refusal), (x.come ⟨0⟩ realm).1 = .error refusal →
        (x.come ⟨0⟩ realm).2 = realm := by
  intro realm
  have h : realm.InOrder ⟨0⟩ := (inOrder_started o name maxPlayers).after arrivals
  refine ⟨h.peopled, h.wellKept,
    fun hcount => h.numbered (h.peopled.length_entitiesOn.trans_lt hcount), fun x refusal hx => ?_⟩
  obtain ⟨v, hv⟩ := Option.isSome_iff_exists.1 h.peopled.server
  obtain ⟨_, hx'⟩ | ⟨_, _, _, _, hx'⟩ | ⟨_, _, _, _, _, hx'⟩ |
    ⟨_, _, _, _, _, _, hx'⟩ :=
    h.peopled.come_cases hv x
  · rw [hx']
  all_goals
    rw [hx'] at hx
    cases hx

/-- A world, a pig and a player come, and a second world and a second player that have their names
    are refused. -/
theorem wellKept_after_hub :
    let place : Location := ⟨⟨0⟩, 0, 64, 0⟩
    let realm := (Snapshot.started (fun _ => .sorted) "s" 1).after ⟨0⟩
      [.world "hub" 1, .world "HUB" 2, .mob ⟨0⟩ .pig place, .player "eve" place]
    let second : Arrival := .player "EVE" place
    (realm.inhabitants ⟨0⟩).length < UInt32.size - 50000 ∧ realm.Numbered ⟨0⟩ ∧
      (∃ refusal, (second.come ⟨0⟩ realm).1 = .error refusal) ∧
      (second.come ⟨0⟩ realm).2 = realm := by
  intro place realm second
  have hcount : (realm.inhabitants ⟨0⟩).length < UInt32.size - 50000 := by decide +kernel
  have hrefused : (second.come ⟨0⟩ realm).1.isOk = false := by decide +kernel
  obtain ⟨-, -, hnumbered, hunchanged⟩ := wellKept_after (fun _ => .sorted) "s" 1
    [.world "hub" 1, .world "HUB" 2, .mob ⟨0⟩ .pig place, .player "eve" place]
  have hsame := hunchanged second
  change ∀ refusal, (second.come ⟨0⟩ realm).1 = .error refusal → (second.come ⟨0⟩ realm).2 = realm
    at hsame
  -- Only whether it is refused is evaluated, and not what the realm is like then.
  generalize second.come ⟨0⟩ realm = outcome at hrefused hsame ⊢
  obtain ⟨refusal | _, after⟩ := outcome
  · exact ⟨hcount, hnumbered hcount, ⟨refusal, rfl⟩, hsame refusal rfl⟩
  · cases hrefused

end Realm

end Chainwalk
