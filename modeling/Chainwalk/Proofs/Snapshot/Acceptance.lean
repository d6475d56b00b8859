import Chainwalk.Proofs.Realm.Checks
import Chainwalk.Proofs.Snapshot.Shown

/-!
# Snapshots that are accepted

Loading a snapshot builds its worlds one after another, block by block and mob by mob, and then lets
its players join. Five things may go wrong on the way: names of worlds or of players that are taken,
blocks that cannot be put, worlds of players that are not there, and a server that is full. Nothing
else can, so the snapshots that are accepted are the consistent ones, and a server that has been
loaded shows its snapshot.

* `Snapshot.Consistent`: the snapshots without such mistakes;
* `Snapshot.checks_loadFill`: every box has blocks at the heights of both its corners;
* `Snapshot.checks_loadWorld`, `Snapshot.checks_loadPlayer`: what is checked of one more of them;
* `Snapshot.checks_load_keeping`: an invariant of the server while it is loaded;
* `Snapshot.loads_iff`: which snapshots are accepted, and what comes of them.
-/

namespace Chainwalk

/-! ## Consistent snapshots -/

/-- The heights at which there are blocks. -/
def IsHeight (y : Int32) : Prop := minHeight ≤ y ∧ y < maxHeight

/-- Whether a box lies within the heights of a world, and its material is one that blocks have. -/
structure Fill.Placeable (f : Fill) : Prop where
  corner : IsHeight f.corner.2.1
  opposite : IsHeight f.opposite.2.1
  material : f.material.isBlock

instance (f : Fill) : Decidable f.Placeable :=
  decidable_of_iff ((minHeight ≤ f.corner.2.1 ∧ f.corner.2.1 < maxHeight) ∧
    (minHeight ≤ f.opposite.2.1 ∧ f.opposite.2.1 < maxHeight) ∧ f.material.isBlock)
    ⟨fun ⟨hc, ho, hm⟩ => ⟨hc, ho, hm⟩, fun h => ⟨h.corner, h.opposite, h.material⟩⟩

/-- Whether a player has a world to come to. -/
def PlayerSpec.HasHome (p : PlayerSpec) (worlds : List WorldSpec) : Prop :=
  (p.world = "" ∧ worlds ≠ []) ∨ ∃ w ∈ worlds, Text.sameIgnoringCase w.name p.world

instance (p : PlayerSpec) (worlds : List WorldSpec) : Decidable (p.HasHome worlds) :=
  decidable_of_iff ((p.world = "" ∧ ¬worlds.isEmpty) ∨
    ∃ w ∈ worlds, Text.sameIgnoringCase w.name p.world) (by simp [PlayerSpec.HasHome])

namespace Snapshot

/-- The snapshots without mistakes. -/
structure Consistent (x : Snapshot) : Prop where
  worldNames : x.worlds.Pairwise fun w w' => ¬Text.sameIgnoringCase w.name w'.name
  fills : ∀ w ∈ x.worlds, ∀ f ∈ w.fills, f.Placeable
  homes : ∀ p ∈ x.players, p.HasHome x.worlds
  playerNames : x.players.Pairwise fun p p' => ¬Text.sameIgnoringCase p.name p'.name
  places : x.players.length ≤ x.maxPlayers.toNat

theorem consistent_iff {x : Snapshot} :
    x.Consistent ↔ (x.worlds.Pairwise fun w w' => ¬Text.sameIgnoringCase w.name w'.name) ∧
      (∀ w ∈ x.worlds, ∀ f ∈ w.fills, f.Placeable) ∧ (∀ p ∈ x.players, p.HasHome x.worlds) ∧
      (x.players.Pairwise fun p p' => ¬Text.sameIgnoringCase p.name p'.name) ∧
      x.players.length ≤ x.maxPlayers.toNat :=
  ⟨fun h => ⟨h.worldNames, h.fills, h.homes, h.playerNames, h.places⟩,
    fun ⟨hw, hf, hh, hp, hm⟩ => ⟨hw, hf, hh, hp, hm⟩⟩

instance (x : Snapshot) : Decidable x.Consistent := decidable_of_iff' _ consistent_iff

variable {x : Snapshot}

theorem Consistent.addWorld_iff (h : x.Consistent) (hnone : x.players = []) {w : WorldSpec} :
    (x.addWorld w).Consistent ↔
      (∀ w' ∈ x.worlds, ¬Text.sameIgnoringCase w'.name w.name) ∧ ∀ f ∈ w.fills, f.Placeable := by
  constructor
  · intro hw
    have hnames := (List.pairwise_append.1 hw.worldNames).2.2
    exact ⟨fun w' hw' => hnames w' hw' w (List.mem_singleton_self w),
      hw.fills w (List.mem_append_right _ (List.mem_singleton_self w))⟩
  · rintro ⟨hnew, hfills⟩
    refine ⟨?_, ?_, ?_, h.playerNames, h.places⟩
    · refine List.pairwise_append.2
        ⟨h.worldNames, List.pairwise_singleton _ _, fun w' hw' v hv => ?_⟩
      obtain rfl := List.mem_singleton.1 hv
      exact hnew w' hw'
    · exact List.forall_mem_append.2 ⟨h.fills, List.forall_mem_singleton.2 hfills⟩
    · intro p hp
      rw [Snapshot.addWorld, hnone] at hp
      cases hp

theorem Consistent.addPlayer_iff (h : x.Consistent) {p : PlayerSpec} :
    (x.addPlayer p).Consistent ↔
      p.HasHome x.worlds ∧ (∀ q ∈ x.players, ¬Text.sameIgnoringCase q.name p.name) ∧
        x.players.length < x.maxPlayers.toNat := by
  have hlength : (x.addPlayer p).players.length = x.players.length + 1 := List.length_append
  constructor
  · intro hp
    have hnames := (List.pairwise_append.1 hp.playerNames).2.2
    have hplaces := hp.places
    rw [hlength] at hplaces
    exact ⟨hp.homes p (List.mem_append_right _ (List.mem_singleton_self p)),
      fun q hq => hnames q hq p (List.mem_singleton_self p), hplaces⟩
  · rintro ⟨hhome, hnew, hplace⟩
    refine ⟨h.worldNames, h.fills,
      List.forall_mem_append.2 ⟨h.homes, List.forall_mem_singleton.2 hhome⟩, ?_, hlength ▸ hplace⟩
    refine List.pairwise_append.2
      ⟨h.playerNames, List.pairwise_singleton _ _, fun q hq p' hp' => ?_⟩
    obtain rfl := List.mem_singleton.1 hp'
    exact hnew q hq

/-- The worlds before others are consistent without these, as long as no players are there. -/
theorem Consistent.worlds_prefix {ws vs : List WorldSpec}
    (h : { x with worlds := ws ++ vs, players := [] }.Consistent) :
    { x with worlds := ws, players := [] }.Consistent :=
  ⟨(List.pairwise_append.1 h.worldNames).1, fun w hw => h.fills w (List.mem_append_left _ hw),
    List.forall_mem_nil _, .nil, Nat.zero_le _⟩

theorem Consistent.players_prefix (ps : List PlayerSpec) {qs : List PlayerSpec}
    (h : { x with players := ps ++ qs }.Consistent) : { x with players := ps }.Consistent := by
  refine ⟨h.worldNames, h.fills, fun p hp => h.homes p (List.mem_append_left _ hp),
    (List.pairwise_append.1 h.playerNames).1, ?_⟩
  have hplaces := h.places
  rw [List.length_append] at hplaces
  exact Nat.le_of_add_right_le hplaces

end Snapshot

/-! ## Boxes -/

/-- The numbers from one of two numbers to the other. -/
def Between (a b n : Int32) : Prop := (a ≤ n ∧ n ≤ b) ∨ (b ≤ n ∧ n ≤ a)

theorem between_iff {a b n : Int32} :
    Between a b n ↔ (min a b).toInt ≤ n.toInt ∧ n.toInt ≤ (max a b).toInt := by
  have hmin : min a b = if a ≤ b then a else b := rfl
  have hmax : max a b = if a ≤ b then b else a := rfl
  rw [Between, hmin, hmax]
  simp only [Int32.le_iff_toInt_le]
  split <;> omega

theorem between_left (a b : Int32) : Between a b a :=
  (Int32.le_total a b).imp (⟨Int32.le_refl a, ·⟩) (⟨·, Int32.le_refl a⟩)

theorem between_right (a b : Int32) : Between a b b :=
  (Int32.le_total a b).imp (⟨·, Int32.le_refl b⟩) (⟨Int32.le_refl b, ·⟩)

/-- What lies between heights is a height. -/
theorem IsHeight.of_between {a b n : Int32} (ha : IsHeight a) (hb : IsHeight b)
    (hn : Between a b n) : IsHeight n := by
  rcases hn with ⟨hleast, hgreatest⟩ | ⟨hleast, hgreatest⟩
  · exact ⟨Int32.le_trans ha.1 hleast, Int32.lt_of_le_of_lt hgreatest hb.2⟩
  · exact ⟨Int32.le_trans hb.1 hleast, Int32.lt_of_le_of_lt hgreatest ha.2⟩

namespace Snapshot

open Realm

variable {I : Realm → Prop} {P : Int32 → Prop} {action : Int32 → RealmM Unit} {r : Ref .world}

theorem checks_forCount (ha : ∀ n, Checks I (action n) (P n) fun _ => I) (count : Nat)
    (first : Int) :
    Checks I (forCount action count first) (∀ i < count, P (Int32.ofInt (first + i)))
      fun _ => I := by
  induction count generalizing first with
  | zero => exact fun a h => ⟨fun i hi => absurd hi (Nat.not_lt_zero i), h⟩
  | succ count ih =>
    refine ((ha _).bind fun _ => ih (first + 1)).iff ?_
    rw [Nat.forall_lt_succ_left]
    simp only [Int.natCast_zero, Int.add_zero, Int.natCast_add, Int.natCast_one, Int.add_assoc,
      Int.add_comm 1]

theorem checks_forBetween (ha : ∀ n, Checks I (action n) (P n) fun _ => I) (a b : Int32) :
    Checks I (forBetween a b action) (∀ n, Between a b n → P n) fun _ => I := by
  refine (checks_forCount ha _ _).iff ⟨fun h n hn => ?_, fun h i hi => h _ ?_⟩
  · obtain ⟨hleast, hgreatest⟩ := between_iff.1 hn
    have hn := h (n.toInt - (min a b).toInt).toNat (by omega)
    rwa [Int.toNat_of_nonneg (by omega), add_sub_cancel, Int32.ofInt_toInt] at hn
  · have hleast := (min a b).le_toInt
    have hgreatest := (max a b).toInt_lt
    have ⟨hleft, hright⟩ := between_iff.1 (between_left a b)
    rw [between_iff, Int32.toInt_ofInt_of_le (by omega) (by omega)]
    omega

theorem checks_setBlock {p : BlockPos} {m : Material}
    (hI : ∀ a, I a → I (modifyWorld r (fun w => { w with grid := w.grid.set p m }) a).2) :
    Checks I (setBlock r p m) (IsHeight p.y ∧ m.isBlock) fun _ => I := by
  have hrun : Checks I (setBlock r p m)
      (¬(p.y < minHeight || maxHeight ≤ p.y) ∧ ¬(!m.isBlock) ∧ True) fun _ => I := by
    rw [setBlock]
    exact .guard _ (.guard _ (.of_eq_ok fun a h => ⟨(), _, rfl, hI a h⟩))
  refine hrun.iff ?_
  simp [IsHeight]

/-- A box is put exactly if its corners are within the heights of a world, since it has a block at
    the height of each of them, and all its blocks lie between. -/
theorem checks_loadFill {f : Fill}
    (hI : ∀ a p, I a →
      I (modifyWorld r (fun w => { w with grid := w.grid.set p f.material }) a).2) :
    Checks I (loadFill r f) f.Placeable fun _ => I := by
  have hrun := checks_forBetween (fun x => checks_forBetween (fun y => checks_forBetween (fun z =>
    checks_setBlock fun a => hI a ⟨x, y, z⟩) f.corner.2.2 f.opposite.2.2)
      f.corner.2.1 f.opposite.2.1) f.corner.1 f.opposite.1
  refine hrun.iff
    ⟨fun h => ?_, fun h x _ y hy z _ => ⟨h.corner.of_between h.opposite hy, h.material⟩⟩
  have hedge := h f.corner.1 (between_left _ _)
  have hcorner := hedge f.corner.2.1 (between_left _ _) f.corner.2.2 (between_left _ _)
  have hopposite := hedge f.opposite.2.1 (between_right _ _) f.corner.2.2 (between_left _ _)
  exact ⟨hcorner.1, hopposite.1, hcorner.2⟩

/-! ## Worlds -/

/-- A server that has been loaded from a consistent snapshot, and shows it. -/
def Loaded (x : Snapshot) (s : Ref .server) (realm : Realm) : Prop :=
  x.Consistent ∧ realm.Shows s x

variable {x : Snapshot} {s : Ref .server} {w : WorldSpec}

theorem checks_createWorld (name : String) (seed : UInt64) :
    Checks (Loaded x s) (createWorld s name seed)
      (∀ w ∈ x.worlds, ¬Text.sameIgnoringCase w.name name)
      fun r a => a.Builds s x (.named name seed) r := by
  intro a h
  rw [run_createWorld, ← h.2.world?_eq_none_iff]
  by_cases htaken : (a.world? s name).isSome
  · rw [if_pos htaken]
    exact Option.isSome_iff_ne_none.1 htaken
  · rw [if_neg htaken]
    have hfree := Option.not_isSome_iff_eq_none.1 htaken
    obtain ⟨v, hv⟩ := Option.isSome_iff_exists.1 h.2.order.peopled.server
    exact ⟨hfree, h.2.withWorld hfree seed, a.worldsOf s, worldsOf_withWorld name seed hv⟩

theorem checks_spawnMob (hnone : x.players = []) (m : MobSpec) :
    Checks (fun a => a.Builds s x w r) (spawnMob r m.kind (locationIn r m.position)) True
      fun _ a => a.Builds s x { w with mobs := w.mobs ++ [m] } r := by
  refine .of_eq_ok fun a h => ?_
  obtain ⟨before, hbefore⟩ := h.last
  have hpeopled := h.shows.order.peopled
  obtain ⟨v, hv⟩ := Option.isSome_iff_exists.1 hpeopled.server
  obtain ⟨z, hz⟩ := Option.isSome_iff_exists.1 (hpeopled.isSome_world r (by simp [hbefore]))
  let mob : Mob := .make v.nextEntityId m.kind (locationIn r m.position)
  refine ⟨a.mobs.next, _, ?_, h.withMob (m := mob) hv hnone rfl rfl⟩
  rw [hpeopled.run_spawnMob hv, hz]
  exact if_neg (not_not.2 rfl)

theorem checks_furnish (hnone : x.players = []) (w : WorldSpec) (r : Ref .world) :
    Checks (fun a => a.Builds s x (.named w.name w.seed) r) (furnish w r)
      (∀ f ∈ w.fills, f.Placeable) fun _ a => a.Shows s (x.addWorld w) := by
  -- The mobs that the world has to have are those that have been spawned so far.
  let built (ms : List MobSpec) : WorldSpec := { w with mobs := ms }
  have hclock : Checks (fun a => a.Builds s x (.named w.name w.seed) r) (modifyWorld r fun z =>
      { z with time := w.time, weather := w.weather, spawn := w.spawn.getD z.spawn }) True
      fun _ a => a.Builds s x (built []) r := by
    refine .of_eq_ok fun a h =>
      ⟨(), _, rfl, h.modifyWorld (by exact fun z => ⟨rfl, rfl, rfl⟩) ?_ rfl⟩
    intro z hz
    have hz : (z.name, z.seed, z.time, z.weather, z.spawn) =
      (w.name, w.seed, (0 : UInt64), Weather.clear, (0.5, 64, 0.5)) := hz
    simp only [Prod.mk.injEq] at hz
    obtain ⟨hname, hseed, -, -, hspawn⟩ := hz
    simp only [World.look, hname, hseed, hspawn]
    rfl
  have hfills : Checks (fun a => a.Builds s x (built []) r) (w.fills.forM (loadFill r))
      (∀ f ∈ w.fills, f.Placeable) fun _ a => a.Builds s x (built []) r := by
    refine .forM_forall (fun f => checks_loadFill fun a p h => ?_) _
    exact h.modifyWorld (by exact fun z => ⟨rfl, rfl, rfl⟩) (by exact fun z hz => hz) rfl
  have hmobs : Checks (fun a => a.Builds s x (built []) r)
      (w.mobs.forM fun m => do let _ ← spawnMob r m.kind (locationIn r m.position)) True
      fun _ a => a.Builds s x (built w.mobs) r := by
    refine .forM (I := fun ms (a : Realm) => a.Builds s x (built ms) r) (P := fun _ => True)
      (by exact fun _ _ => id) (by exact fun _ _ _ => trivial) (fun ms m => ?_) [] w.mobs
    exact ((checks_spawnMob hnone m).bind fun _ => .pure fun _ => id).iff (and_self_iff)
  refine ((hclock.bind fun _ => hfills.bind fun _ => hmobs).iff ?_).mono (fun _ => id) Iff.rfl
    fun _ _ h => h.shows
  rw [true_and, and_true]

theorem checks_loadWorld (hnone : x.players = []) (w : WorldSpec) :
    Checks (Loaded x s) (loadWorld s w) (x.addWorld w).Consistent
      fun _ => Loaded (x.addWorld w) s := by
  intro a h
  have hrun := (checks_createWorld w.name w.seed).bind (checks_furnish (s := s) hnone w)
  exact (hrun.iff (h.1.addWorld_iff hnone).symm).and_post a h

/-! ## Players -/

/-- A player has just come to a server that shows a snapshot, and nothing else has been done. -/
def Joins (x : Snapshot) (s : Ref .server) (joined : Ref .player) (p : Player) (b : Realm) : Prop :=
  ∃ (a : Realm) (v : Server), a.Shows s x ∧ a.servers.get? s = some v ∧
    a.player? s p.base.name = none ∧ v.players.length < v.maxPlayers.toNat ∧
    p.base.id = v.nextEntityId ∧ p.inventory = a.inventories.next ∧ joined = a.players.next ∧
    b = (a.withNumber s (v.nextEntityId + 1)).withPlayer s p

variable {joined : Ref .player} {p : Player} {b : Realm} {spec : PlayerSpec}

theorem Joins.modifyPlayer (h : Joins x s joined p b) {f : Player → Player}
    (hf : (f p).base = p.base ∧ (f p).inventory = p.inventory) :
    Joins x s joined (f p) (Realm.modifyPlayer joined f b).2 := by
  obtain ⟨a, v, hshows, hv, hfree, hplace, hid, hinventory, rfl, rfl⟩ := h
  refine ⟨a, v, hshows, hv, hf.1 ▸ hfree, hplace, hf.1 ▸ hid, hf.2 ▸ hinventory, rfl, ?_⟩
  change { (a.withNumber s (v.nextEntityId + 1)).withPlayer s p with
    players := (a.players.insert p).modify a.players.next f } = _
  rw [Table.modify_insert_next]
  rfl

theorem Joins.get? (h : Joins x s joined p b) : b.players.get? joined = some p := by
  obtain ⟨a, v, -, -, -, -, -, -, rfl, rfl⟩ := h
  exact Table.get?_insert_self a.players p

theorem Joins.isSome_inventory (h : Joins x s joined p b) :
    (b.inventories.get? p.inventory).isSome := by
  obtain ⟨a, v, -, -, -, -, -, hinventory, rfl, rfl⟩ := h
  rw [hinventory]
  exact congrArg Option.isSome (Table.get?_insert_self a.inventories .empty)

theorem Joins.shows (h : Joins x s joined p b) (hlook : p.look = spec.look) :
    b.Shows s (x.addPlayer spec) := by
  obtain ⟨a, v, hshows, hv, hfree, hplace, hid, -, rfl, rfl⟩ := h
  exact hshows.withPlayer hv hfree hplace hid hlook

theorem checks_join (name : String) (l : Location) :
    Checks (fun a => a.Shows s x) (join s name l)
      ((∀ q ∈ x.players, ¬Text.sameIgnoringCase q.name name) ∧
        x.players.length < x.maxPlayers.toNat)
      fun joined b => ∃ p : Player, p.base.name = name ∧ Joins x s joined p b := by
  intro a h
  obtain ⟨v, hv⟩ := Option.isSome_iff_exists.1 h.order.peopled.server
  rw [run_join name l hv, ← h.player?_eq_none_iff, ← h.length_players hv, ← h.maxPlayers_eq hv]
  by_cases htaken : (a.player? s name).isSome
  · rw [if_pos htaken]
    exact fun hboth => Option.isSome_iff_ne_none.1 htaken hboth.1
  · have hfree := Option.not_isSome_iff_eq_none.1 htaken
    rw [if_neg htaken]
    by_cases hfull : v.maxPlayers.toNat ≤ v.players.length
    · rw [if_pos hfull]
      exact fun hboth => Nat.not_lt_of_le hfull hboth.2
    · rw [if_neg hfull]
      have hplace := Nat.lt_of_not_le hfull
      let p : Player := .make v.nextEntityId name l a.inventories.next
      exact ⟨⟨hfree, hplace⟩, p, rfl, a, v, h, hv, hfree, hplace, rfl, rfl, rfl, rfl⟩

theorem getInventory_eq {a : Realm} {i : Ref .inventory} {inventory : Inventory}
    (hi : a.inventories.get? i = some inventory) : getInventory i a = (.ok inventory, a) := by
  have hget : (get : RealmM Realm) a = (.ok a, a) := rfl
  rw [getInventory, bind_apply, hget]
  dsimp only
  rw [hi]
  rfl

theorem getPlayer_eq {a : Realm} (hp : a.players.get? joined = some p) :
    getPlayer joined a = (.ok p, a) := by
  have hget : (get : RealmM Realm) a = (.ok a, a) := rfl
  rw [getPlayer, bind_apply, hget]
  dsimp only
  rw [hp]
  rfl

theorem checks_addItems (i : Ref .inventory) (m : Material) (n : UInt8) :
    Checks (fun a => a.Shows s x ∧ (a.inventories.get? i).isSome) (addItems i m n) True
      fun _ a => a.Shows s x ∧ (a.inventories.get? i).isSome := by
  refine .of_eq_ok fun a h => ?_
  obtain ⟨inventory, hinventory⟩ := Option.isSome_iff_exists.1 h.2
  rw [addItems, bind_apply, getInventory_eq hinventory]
  refine ⟨_, _, rfl, h.1.withItems _ _, ?_⟩
  rw [Table.get?_modify, if_pos rfl, hinventory]
  rfl

theorem home?_eq_none_iff {a : Realm} (h : a.Shows s x) (p : PlayerSpec) :
    (if p.world.isEmpty then a.defaultWorld? s else a.world? s p.world) = none ↔
      ¬p.HasHome x.worlds := by
  rw [PlayerSpec.HasHome]
  by_cases hempty : p.world.isEmpty
  · rw [if_pos hempty, h.defaultWorld?_eq_none_iff]
    have hname : p.world = "" := String.isEmpty_iff.1 hempty
    grind
  · rw [if_neg hempty, h.world?_eq_none_iff]
    have hname : p.world ≠ "" := fun heq => hempty (String.isEmpty_iff.2 heq)
    simp [hname]

/-- What is done with a player who has just come does not fail. -/
theorem checks_equip (p : PlayerSpec) (joined : Ref .player) :
    Checks (fun b => ∃ player : Player, player.base.name = p.name ∧ Joins x s joined player b)
      (do
        modifyPlayer joined fun player => { player.atLevel p.level with gameMode := p.gameMode }
        let player ← getPlayer joined
        p.items.forM fun item => do
          let _ ← addItems player.inventory item.material item.count)
      True fun _ b => b.Shows s (x.addPlayer p) := by
  have hequipped : Checks
      (fun b => ∃ player : Player, player.base.name = p.name ∧ Joins x s joined player b)
      (modifyPlayer joined fun player => { player.atLevel p.level with gameMode := p.gameMode })
      True fun _ b => ∃ player : Player, player.look = p.look ∧ Joins x s joined player b := by
    refine .of_eq_ok fun b ⟨player, hname, h⟩ => ⟨(), _, rfl, _, ?_, h.modifyPlayer ⟨rfl, rfl⟩⟩
    exact congrArg (·, p.gameMode, max p.level 0) hname
  have hfetched : Checks
      (fun b => ∃ player : Player, player.look = p.look ∧ Joins x s joined player b)
      (getPlayer joined) True fun player b =>
        b.Shows s (x.addPlayer p) ∧ (b.inventories.get? player.inventory).isSome :=
    .of_eq_ok fun b ⟨player, hlook, h⟩ =>
      ⟨player, b, getPlayer_eq h.get?, h.shows hlook, h.isSome_inventory⟩
  have hfilled (i : Ref .inventory) : Checks
      (fun b => b.Shows s (x.addPlayer p) ∧ (b.inventories.get? i).isSome)
      (p.items.forM fun item => do let _ ← addItems i item.material item.count)
      True fun _ b => b.Shows s (x.addPlayer p) := by
    refine (Checks.forM_forall (P := fun _ => True) (fun item => ?_) p.items).mono (fun _ => id)
      (by simp) fun _ _ h => h.1
    exact ((checks_addItems i _ _).bind fun _ => .pure fun _ => id).iff and_self_iff
  exact (hequipped.bind fun _ => hfetched.bind fun player => hfilled player.inventory).iff (by simp)

theorem checks_loadPlayer (p : PlayerSpec) :
    Checks (Loaded x s) (loadPlayer s p) (x.addPlayer p).Consistent
      fun _ => Loaded (x.addPlayer p) s := by
  refine (Checks.get_bind fun a h => ?_).and_post
  have hhome := home?_eq_none_iff h.2 p
  have hiff := h.1.addPlayer_iff (p := p)
  dsimp only
  split
  case h_1 hnone =>
    exact (Checks.throw _).iff (iff_of_false id fun hp => hhome.1 hnone (hiff.1 hp).1)
  case h_2 r hr =>
    have hhome : p.HasHome x.worlds := by
      by_contra hnot
      rw [hhome.2 hnot] at hr
      cases hr
    refine (((checks_join p.name _).bind fun joined => checks_equip p joined).iff ?_).mono
      (fun b hb => hb ▸ h.2) Iff.rfl fun _ _ => id
    rw [hiff, and_iff_right hhome, and_true]

/-! ## Snapshots -/

theorem loaded_started (x : Snapshot) (o : Ref .world → BlockOrder) :
    Loaded { x with worlds := [], players := [] } ⟨0⟩ (started o x.name x.maxPlayers) :=
  ⟨⟨.nil, List.forall_mem_nil _, List.forall_mem_nil _, .nil, Nat.zero_le _⟩,
    ⟨inOrder_started o x.name x.maxPlayers, rfl, rfl, rfl, rfl, rfl⟩⟩

/-- A snapshot is loaded exactly if it is consistent, and then the server has whatever every world
    and every player that is loaded keeps. -/
theorem checks_load_keeping {J : Snapshot → Ref .server → Realm → Prop}
    {o : Ref .world → BlockOrder} (hstart : ∀ name n, J ⟨name, n, [], []⟩ ⟨0⟩ (started o name n))
    (hworld : ∀ x s w, x.players = [] →
      Leads (fun a => Loaded x s a ∧ J x s a) (loadWorld s w) fun _ => J (x.addWorld w) s)
    (hplayer : ∀ x s p,
      Leads (fun a => Loaded x s a ∧ J x s a) (loadPlayer s p) fun _ => J (x.addPlayer p) s)
    (x : Snapshot) :
    Checks (· = Realm.ordered o) x.load x.Consistent fun s a => Loaded x s a ∧ J x s a := by
  let K (x : Snapshot) (s : Ref .server) (a : Realm) : Prop := Loaded x s a ∧ J x s a
  have hserver : Checks (· = Realm.ordered o) (newServer (.make x.name x.maxPlayers)) True
      fun s a => s = ⟨0⟩ ∧ K { x with worlds := [], players := [] } ⟨0⟩ a := by
    refine .of_eq_ok ?_
    rintro a rfl
    exact ⟨⟨0⟩, started o x.name x.maxPlayers, rfl, rfl, loaded_started x o, hstart _ _⟩
  have hworlds : Checks (K { x with worlds := [], players := [] } ⟨0⟩)
      (x.worlds.forM (loadWorld ⟨0⟩)) { x with players := [] }.Consistent
      fun _ => K { x with players := [] } ⟨0⟩ :=
    .forM (I := fun ws => K { x with worlds := ws, players := [] } ⟨0⟩)
      (P := fun ws => { x with worlds := ws, players := [] }.Consistent)
      (by exact fun _ _ => Consistent.worlds_prefix) (by exact fun _ _ h => h.1.1)
      (by exact fun ws w => (checks_loadWorld rfl w).and_leads (hworld _ _ w rfl)) [] x.worlds
  have hplayers : Checks (K { x with players := [] } ⟨0⟩)
      (x.players.forM (loadPlayer ⟨0⟩)) x.Consistent fun _ => K x ⟨0⟩ :=
    .forM (I := fun ps => K { x with players := ps } ⟨0⟩)
      (P := fun ps => { x with players := ps }.Consistent)
      (by exact fun ps _ => Consistent.players_prefix ps) (by exact fun _ _ h => h.1.1)
      (by exact fun ps p => (checks_loadPlayer p).and_leads (hplayer _ _ p)) [] x.players
  have hrest (s : Ref .server) :
      Checks (fun a => s = ⟨0⟩ ∧ K { x with worlds := [], players := [] } ⟨0⟩ a)
        (do
          x.worlds.forM (loadWorld s)
          x.players.forM (loadPlayer s)
          return s)
        x.Consistent (K x) := by
    rintro a ⟨rfl, h⟩
    refine ((hworlds.bind fun _ => hplayers.bind fun _ => .pure fun _ => id).iff ?_) a h
    rw [and_true]
    exact and_iff_right_of_imp fun h => h.players_prefix []
  exact (hserver.bind hrest).iff (and_iff_right trivial)

/-- A snapshot is loaded exactly if it is consistent. -/
theorem checks_load (x : Snapshot) (o : Ref .world → BlockOrder) :
    Checks (· = Realm.ordered o) x.load x.Consistent (Loaded x) := by
  have hload := checks_load_keeping (J := fun _ _ _ => True) (o := o) (fun _ _ => trivial)
    (fun _ _ _ _ _ _ _ _ _ => trivial) (fun _ _ _ _ _ _ _ _ => trivial) x
  exact hload.mono (fun _ => id) Iff.rfl fun _ _ h => h.1

theorem Consistent.exists_load {x : Snapshot} (h : x.Consistent) (o : Ref .world → BlockOrder) :
    ∃ s realm, x.load (.ordered o) = (.ok s, realm) := by
  have hload := checks_load x o (.ordered o) rfl
  generalize x.load (.ordered o) = outcome at hload ⊢
  obtain ⟨refusal | s, realm⟩ := outcome
  · exact absurd h hload
  · exact ⟨s, realm, rfl⟩

/-- The snapshots that are accepted are the consistent ones. The server shows what the snapshot
    says, and the numbers of its mobs and players are those from one on, as long as there are
    enough. -/
theorem loads_iff (x : Snapshot) (o : Ref .world → BlockOrder)
    (hcount : x.population < UInt32.size - 50000) :
    ((∃ s realm, x.load (.ordered o) = (.ok s, realm)) ↔ x.Consistent) ∧
      ∀ s realm, x.load (.ordered o) = (.ok s, realm) →
        realm.Shows s x ∧ (realm.roll s).map UInt32.toNat = List.range' 1 x.population := by
  have hload := checks_load x o (.ordered o) rfl
  refine ⟨⟨?accepted, ?consistent⟩, ?shown⟩
  case accepted =>
    rintro ⟨s, realm, heq⟩
    rw [heq] at hload
    exact hload.1
  case consistent =>
    intro hconsistent
    generalize x.load (.ordered o) = outcome at hload ⊢
    obtain ⟨refusal | s, realm⟩ := outcome
    · exact absurd hconsistent hload
    · exact ⟨s, realm, rfl⟩
  case shown =>
    intro s realm heq
    rw [heq] at hload
    have hshows := hload.2.2
    refine ⟨hshows, ?_⟩
    rw [hshows.numbers, numbersUpTo, List.map_map]
    refine (List.map_congr_left fun i hi => ?_).trans (List.map_id _)
    rw [List.mem_range'_1] at hi
    have hsize : UInt32.size = 4294967296 := rfl
    exact UInt32.toNat_ofNat_of_lt' (by omega)

/-- The snapshot that is always there is accepted. -/
theorem loads_iff_sample :
    sample.population < UInt32.size - 50000 ∧ ∃ s realm, sample.load Realm.empty = (.ok s, realm) ∧
      realm.Shows s sample ∧ (realm.roll s).map UInt32.toNat = [1, 2, 3, 4, 5] := by
  have hcount : sample.population < UInt32.size - 50000 := by decide
  obtain ⟨haccepted, hshown⟩ := loads_iff sample (fun _ => .sorted) hcount
  obtain ⟨s, realm, hload⟩ := haccepted.2 (by decide +kernel)
  obtain ⟨hshows, hnumbers⟩ := hshown s realm hload
  have hpopulation : sample.population = 5 := rfl
  rw [hpopulation] at hnumbers
  exact ⟨hcount, s, realm, hload, hshows, hnumbers⟩

end Snapshot

end Chainwalk
