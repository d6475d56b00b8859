import Chainwalk.Proofs.World.Grid

/-!
# The blocks of a server that is loaded

A snapshot gives the blocks of a world as boxes that are put one over the other. In a world that has
been loaded every cell has the material of the last box that it lies in, and is air if it lies in
none. Which corners of a box are given does not matter.

* `Fill.Covers`: whether a cell lies in a box, whatever the two corners that are given;
* `WorldSpec.materialAt`: the material that the boxes give a cell;
* `Realm.KeepsGrids`, `Rebuilds`: what actions do to the blocks of worlds;
* `Snapshot.swapped`: a snapshot where corners of boxes have changed some of their coordinates;
* `Snapshot.blocks_loaded`: the blocks of a server that has been loaded.
-/

namespace Chainwalk

/-! ## Boxes -/

instance (a b n : Int32) : Decidable (Between a b n) :=
  inferInstanceAs (Decidable ((a ≤ n ∧ n ≤ b) ∨ (b ≤ n ∧ n ≤ a)))

/-- The numbers from the lesser of two numbers to the greater. -/
def numbersBetween (a b : Int32) : List Int32 :=
  (List.range ((max a b).toInt - (min a b).toInt).toNat.succ).map fun i : Nat =>
    Int32.ofInt ((min a b).toInt + i)

theorem mem_numbersBetween_iff {a b n : Int32} : n ∈ numbersBetween a b ↔ Between a b n := by
  rw [between_iff, numbersBetween, List.mem_map]
  constructor
  · rintro ⟨i, hi, rfl⟩
    rw [List.mem_range] at hi
    have hleast := (min a b).le_toInt
    have hgreatest := (max a b).toInt_lt
    have ⟨hleft, hright⟩ := between_iff.1 (between_left a b)
    rw [Int32.toInt_ofInt_of_le (by omega) (by omega)]
    omega
  · rintro ⟨hleast, hgreatest⟩
    refine ⟨(n.toInt - (min a b).toInt).toNat, List.mem_range.2 (by omega), ?_⟩
    rw [Int.toNat_of_nonneg (by omega), add_sub_cancel, Int32.ofInt_toInt]

theorem forCount_eq_forM (action : Int32 → RealmM Unit) (count : Nat) (first : Int) :
    forCount action count first =
      ((List.range count).map fun i : Nat => Int32.ofInt (first + i)).forM action := by
  induction count generalizing first with
  | zero => rfl
  | succ count ih =>
    have hfirst : first + ((0 : Nat) : Int) = first := Int.add_zero first
    have hrest (i : Nat) : first + 1 + (i : Int) = first + (i.succ : Int) := by omega
    rw [forCount, ih, List.range_succ_eq_map, List.map_cons, List.map_map, hfirst]
    simp only [hrest]
    rfl

theorem forBetween_eq_forM (a b : Int32) (action : Int32 → RealmM Unit) :
    forBetween a b action = (numbersBetween a b).forM action :=
  forCount_eq_forM action _ _

/-- The numbers between two are the same from both sides. -/
theorem forBetween_comm (a b : Int32) : forBetween a b = forBetween b a := by
  have hmin : (if a ≤ b then a else b) = if b ≤ a then b else a := by
    simp only [Int32.le_iff_toInt_le, ← Int32.toInt_inj, apply_ite Int32.toInt]
    split <;> split <;> omega
  have hmax : (if a ≤ b then b else a) = if b ≤ a then a else b := by
    simp only [Int32.le_iff_toInt_le, ← Int32.toInt_inj, apply_ite Int32.toInt]
    split <;> split <;> omega
  funext action
  rw [forBetween, forBetween, show min a b = min b a from hmin, show max a b = max b a from hmax]

namespace Fill

/-- Whether a cell lies in a box. -/
def Covers (f : Fill) (p : BlockPos) : Prop :=
  Between f.corner.1 f.opposite.1 p.x ∧ Between f.corner.2.1 f.opposite.2.1 p.y ∧
    Between f.corner.2.2 f.opposite.2.2 p.z

instance (f : Fill) (p : BlockPos) : Decidable (f.Covers p) :=
  inferInstanceAs (Decidable (_ ∧ _ ∧ _))

/-- The grid with a box of blocks put into it. -/
def build (g : Grid) (f : Fill) : Grid :=
  (numbersBetween f.corner.1 f.opposite.1).foldl (fun g x =>
    (numbersBetween f.corner.2.1 f.opposite.2.1).foldl (fun g y =>
      (numbersBetween f.corner.2.2 f.opposite.2.2).foldl (fun g z =>
        g.set ⟨x, y, z⟩ f.material) g) g) g

/-- What is put for every number between two is seen where one coordinate lies between them. -/
theorem get_foldl_numbersBetween {G : Grid → Int32 → Grid} {p : BlockPos} {m : Material} {k : Int32}
    {P : Prop} [Decidable P]
    (h : ∀ g n, (G g n).get p = if n = k ∧ P then m else g.get p) (a b : Int32) (g : Grid) :
    ((numbersBetween a b).foldl G g).get p = if Between a b k ∧ P then m else g.get p := by
  rw [foldl_eq_ite (fun g : Grid => g.get p) h]
  refine if_congr ?_ rfl rfl
  simp only [mem_numbersBetween_iff]
  exact ⟨fun ⟨n, hn, heq, hP⟩ => ⟨heq ▸ hn, hP⟩, fun ⟨hk, hP⟩ => ⟨k, hk, rfl, hP⟩⟩

/-- A box is seen in the cells that lie in it, and nowhere else. -/
theorem get_build (g : Grid) (f : Fill) (p : BlockPos) :
    (f.build g).get p = if f.Covers p then f.material else g.get p := by
  obtain ⟨px, py, pz⟩ := p
  -- One coordinate after another, from the innermost loop to the outermost.
  have hcell (x y : Int32) (g : Grid) (z : Int32) :
      (g.set ⟨x, y, z⟩ f.material).get ⟨px, py, pz⟩ =
        if z = pz ∧ y = py ∧ x = px then f.material else g.get ⟨px, py, pz⟩ := by
    rw [Grid.get_set]
    refine if_congr ?_ rfl rfl
    rw [BlockPos.mk.injEq]
    grind
  have hrow (x : Int32) (g : Grid) (y : Int32) :=
    (get_foldl_numbersBetween (hcell x y) f.corner.2.2 f.opposite.2.2 g).trans
      (if_congr and_left_comm rfl rfl)
  have hlayer (g : Grid) (x : Int32) :=
    (get_foldl_numbersBetween (hrow x) f.corner.2.1 f.opposite.2.1 g).trans
      (if_congr (and_assoc.symm.trans and_comm) rfl rfl)
  exact get_foldl_numbersBetween hlayer f.corner.1 f.opposite.1 g

end Fill

/-- The material that the boxes of a world give a cell: that of the last one in which it lies. -/
def WorldSpec.materialAt (w : WorldSpec) (p : BlockPos) : Material :=
  ((w.fills.filter (·.Covers p)).getLast?.map Fill.material).getD .air

/-- The grid of a world when its boxes have been put. -/
def WorldSpec.grid (w : WorldSpec) : Grid := w.fills.foldl (fun g f => f.build g) .empty

theorem WorldSpec.get_grid (w : WorldSpec) : w.grid.get = w.materialAt := by
  funext p
  have hlast := foldl_eq_getLast? (fun g : Grid => g.get p) (fun g (f : Fill) => f.get_build g p)
    w.fills .empty
  rwa [Grid.get_empty] at hlast

/-! ## Actions and grids -/

namespace Realm

/-- From one realm to the other the worlds of all servers stay, and the grids of all worlds. -/
structure KeepsGrids (a b : Realm) : Prop where
  worldsOf : ∀ s, b.worldsOf s = a.worldsOf s
  grids : ∀ r, (b.worlds.get? r).map World.grid = (a.worlds.get? r).map World.grid

instance : IsPreorder Realm KeepsGrids where
  refl _ := ⟨fun _ => rfl, fun _ => rfl⟩
  trans _ _ _ hab hbc :=
    ⟨fun s => (hbc.worldsOf s).trans (hab.worldsOf s), fun r => (hbc.grids r).trans (hab.grids r)⟩

variable {a b : Realm} {s : Ref .server} {r : Ref .world}

theorem KeepsGrids.map_grid_loadedWorlds (h : KeepsGrids a b) (s : Ref .server) :
    (b.loadedWorlds s).map World.grid = (a.loadedWorlds s).map World.grid := by
  rw [loadedWorlds, loadedWorlds, h.worldsOf, List.map_filterMap, List.map_filterMap]
  exact List.filterMap_congr fun r _ => h.grids r

/-- What is kept between two realms is kept when the same grid is changed in both. -/
theorem KeepsGrids.rebuilt (h : KeepsGrids a b) (r : Ref .world) (G : Grid → Grid) :
    KeepsGrids (a.rebuilt r G) (b.rebuilt r G) := by
  have hgrid (c : Realm) (q : Ref .world) : ((c.rebuilt r G).worlds.get? q).map World.grid =
      ((c.worlds.get? q).map World.grid).map (if q = r then G else id) := by
    rw [Realm.rebuilt, Table.get?_modify]
    split
    · rw [Option.map_map, Option.map_map]
      rfl
    · rw [Option.map_id, id]
  refine ⟨h.worldsOf, fun q => ?_⟩
  rw [hgrid, hgrid, h.grids]

/-- A new world comes to the end of the list with whatever grid it is given. -/
theorem Peopled.loadedWorlds_rebuilt (h : a.Peopled s) {v : Server} (hv : a.servers.get? s = some v)
    (name : String) (seed : UInt64) (G : Grid → Grid) :
    ((a.withWorld s name seed).rebuilt a.worlds.next G).loadedWorlds s =
      a.loadedWorlds s ++ [{ World.make name seed (some s) with grid := G .empty }] := by
  have hworlds : ((a.withWorld s name seed).rebuilt a.worlds.next G).worldsOf s =
      a.worldsOf s ++ [a.worlds.next] := worldsOf_withWorld name seed hv
  have htable : ((a.withWorld s name seed).rebuilt a.worlds.next G).worlds =
      a.worlds.insert { World.make name seed (some s) with grid := G .empty } :=
    Table.modify_insert_next a.worlds (.make name seed (some s)) _
  rw [loadedWorlds, hworlds, htable]
  exact Table.filterMap_get?_insert_next h.isSome_world _

theorem keepsGrids_of_tables (hs : b.servers = a.servers) (hw : b.worlds = a.worlds) :
    KeepsGrids a b :=
  ⟨fun s => by rw [worldsOf, worldsOf, hs], fun r => by rw [hw]⟩

theorem keepsGrids_modifyServer (s : Ref .server) {f : Server → Server}
    (hf : ∀ v, (f v).worlds = v.worlds) : Along KeepsGrids (modifyServer s f) := by
  refine fun a => ⟨fun q => ?_, fun _ => rfl⟩
  exact congrArg (Option.getD · []) (Table.map_get?_modify hf a.servers s q)

theorem keepsGrids_modifyWorld (r : Ref .world) {f : World → World}
    (hf : ∀ w, (f w).grid = w.grid) : Along KeepsGrids (modifyWorld r f) :=
  fun a => ⟨fun _ => rfl, fun q => Table.map_get?_modify hf a.worlds r q⟩

theorem keepsGrids_modifyPlayer (r : Ref .player) (f : Player → Player) :
    Along KeepsGrids (modifyPlayer r f) :=
  fun _ => keepsGrids_of_tables rfl rfl

theorem keepsGrids_spawnMob (r : Ref .world) (kind : MobType) (l : Location) :
    Along KeepsGrids (spawnMob r kind l) :=
  along_spawnMob r kind l (fun s _ => keepsGrids_modifyServer s (by exact fun _ => rfl))
    (fun _ _ => keepsGrids_of_tables rfl rfl) fun _ =>
      keepsGrids_modifyWorld r (by exact fun _ => rfl)

theorem keepsGrids_join (s : Ref .server) (name : String) (l : Location) :
    Along KeepsGrids (join s name l) :=
  along_join s name l (fun _ => keepsGrids_modifyServer s (by exact fun _ => rfl))
    (fun _ _ => keepsGrids_of_tables rfl rfl) fun _ =>
      keepsGrids_modifyServer s (by exact fun _ => rfl)

theorem keepsGrids_addItems (r : Ref .inventory) (m : Material) (n : UInt8) :
    Along KeepsGrids (addItems r m n) :=
  (along_getInventory r).bind fun _ => .modifyGet fun _ => keepsGrids_of_tables rfl rfl

/-- An action that, where it succeeds, changes the grid of one world and keeps all others. -/
def Rebuilds {α : Type} (r : Ref .world) (G : Grid → Grid) (m : RealmM α) : Prop :=
  ∀ a, Leads (· = a) m fun _ b => KeepsGrids (a.rebuilt r G) b

namespace Rebuilds

variable {α β : Type} {G H : Grid → Grid} {m : RealmM α}

theorem of_along (hm : Along KeepsGrids m) : Rebuilds r id m := by
  rintro _ a x b rfl hrun
  have hkeeps := hm a
  rw [hrun] at hkeeps
  rwa [rebuilt_id]

theorem bind {k : α → RealmM β} (hm : Rebuilds r G m) (hk : ∀ x, Rebuilds r H (k x)) :
    Rebuilds r (H ∘ G) (m >>= k) := by
  refine fun a => (hm a).bind fun x => ?_
  intro b y c hb hrun
  have hkept := hb.rebuilt r H
  rw [rebuilt_rebuilt] at hkept
  exact trans_of KeepsGrids hkept (hk x b b y c rfl hrun)

theorem forM {G : Grid → α → Grid} {f : α → RealmM PUnit} (hf : ∀ x, Rebuilds r (G · x) (f x))
    (xs : List α) : Rebuilds r (xs.foldl G) (xs.forM f) := by
  induction xs with
  | nil => exact of_along (.pure _)
  | cons x xs ih => exact (hf x).bind fun _ => ih

end Rebuilds

theorem rebuilds_setBlock (r : Ref .world) (p : BlockPos) (m : Material) :
    Rebuilds r (·.set p m) (setBlock r p m) := by
  rintro _ a x b rfl hrun
  rw [run_setBlock] at hrun
  split at hrun
  · obtain rfl := (Prod.mk.inj hrun).2
    exact refl_of KeepsGrids _
  · cases (Prod.mk.inj hrun).1

end Realm

namespace Snapshot

open Realm

variable {r : Ref .world}

theorem rebuilds_loadFill (r : Ref .world) (f : Fill) :
    Rebuilds r (Fill.build · f) (loadFill r f) := by
  have hbetween {G : Grid → Int32 → Grid} {action : Int32 → RealmM Unit} (a b : Int32)
      (h : ∀ n, Rebuilds r (G · n) (action n)) :
      Rebuilds r ((numbersBetween a b).foldl G) (forBetween a b action) := by
    rw [forBetween_eq_forM]
    exact .forM h _
  exact hbetween _ _ fun x => hbetween _ _ fun y => hbetween _ _ fun z =>
    rebuilds_setBlock r ⟨x, y, z⟩ f.material

theorem rebuilds_furnish (w : WorldSpec) (r : Ref .world) :
    Rebuilds r (w.fills.foldl Fill.build) (furnish w r) := by
  have hclock := keepsGrids_modifyWorld r (f := fun z =>
    { z with time := w.time, weather := w.weather, spawn := w.spawn.getD z.spawn }) fun _ => rfl
  have hmobs : Along KeepsGrids (w.mobs.forM fun m => do
      let _ ← spawnMob r m.kind (locationIn r m.position)) :=
    .forM (fun m => (keepsGrids_spawnMob r _ _).bind fun _ => .pure _) _
  exact (Rebuilds.of_along hclock).bind fun _ =>
    (Rebuilds.forM (rebuilds_loadFill r) w.fills).bind fun _ => .of_along hmobs

theorem keepsGrids_loadPlayer (s : Ref .server) (p : PlayerSpec) :
    Along KeepsGrids (loadPlayer s p) := by
  refine .get_bind fun realm => ?_
  dsimp only
  split
  · exact .throw _
  · refine (keepsGrids_join s _ _).bind fun joined =>
      (keepsGrids_modifyPlayer joined _).bind fun _ =>
      (along_getPlayer joined).bind fun player => .forM (fun item => ?_) _
    exact (keepsGrids_addItems _ _ _).bind fun _ => .pure _

/-- The grids of the worlds that have been loaded are those that their boxes give. -/
def Built (x : Snapshot) (s : Ref .server) (realm : Realm) : Prop :=
  (realm.loadedWorlds s).map World.grid = x.worlds.map WorldSpec.grid

variable {x : Snapshot} {s : Ref .server} {a b : Realm}

theorem leads_loadWorld_built (w : WorldSpec) :
    Leads (fun a => Loaded x s a ∧ x.Built s a) (loadWorld s w)
      fun _ => (x.addWorld w).Built s := by
  rintro a _ b ⟨⟨-, hshows⟩, h⟩ hrun
  have hpeopled := hshows.order.peopled
  obtain ⟨v, hv⟩ := Option.isSome_iff_exists.1 hpeopled.server
  rw [loadWorld_eq, bind_apply, run_createWorld] at hrun
  by_cases htaken : (a.world? s w.name).isSome
  · rw [if_pos htaken] at hrun
    cases (Prod.mk.inj hrun).1
  · rw [if_neg htaken] at hrun
    -- All that is seen of the new world is what its boxes make of an empty grid.
    have hkeeps : KeepsGrids ((a.withWorld s w.name w.seed).rebuilt a.worlds.next
        (w.fills.foldl Fill.build)) b :=
      rebuilds_furnish w a.worlds.next (a.withWorld s w.name w.seed) _ () b rfl hrun
    rw [Built, hkeeps.map_grid_loadedWorlds, hpeopled.loadedWorlds_rebuilt hv, List.map_append, h,
      Snapshot.addWorld, List.map_append]
    rfl

theorem leads_loadPlayer_built (p : PlayerSpec) :
    Leads (x.Built s) (loadPlayer s p) fun _ => (x.addPlayer p).Built s := by
  intro a _ b h hrun
  have hkeeps := keepsGrids_loadPlayer s p a
  rw [hrun] at hkeeps
  exact (hkeeps.map_grid_loadedWorlds s).trans h

end Snapshot

/-! ## Corners -/

/-- The box with some coordinates of its corners changed for each other. -/
def Fill.swapped (swaps : Triple Bool) (f : Fill) : Fill where
  corner :=
    (if swaps.1 then f.opposite.1 else f.corner.1,
      if swaps.2.1 then f.opposite.2.1 else f.corner.2.1,
      if swaps.2.2 then f.opposite.2.2 else f.corner.2.2)
  opposite :=
    (if swaps.1 then f.corner.1 else f.opposite.1,
      if swaps.2.1 then f.corner.2.1 else f.opposite.2.1,
      if swaps.2.2 then f.corner.2.2 else f.opposite.2.2)
  material := f.material

/-- The world with corners of its boxes changed, each box in its own way. -/
def WorldSpec.swapped (swaps : Nat → Triple Bool) (w : WorldSpec) : WorldSpec :=
  { w with fills := w.fills.mapIdx fun i => Fill.swapped (swaps i) }

namespace Snapshot

/-- The snapshot with corners of the boxes of its worlds changed, each box in its own way. -/
def swapped (swaps : Nat → Nat → Triple Bool) (x : Snapshot) : Snapshot :=
  { x with worlds := x.worlds.mapIdx fun i => WorldSpec.swapped (swaps i) }

/-- Elements that are done alike may take each other's places. -/
theorem forM_mapIdx {α : Type} {f : α → RealmM PUnit} {g : Nat → α → α}
    (h : ∀ i x, f (g i x) = f x) (xs : List α) : (xs.mapIdx g).forM f = xs.forM f := by
  induction xs generalizing g with
  | nil => rfl
  | cons x xs ih =>
    rw [List.mapIdx_cons]
    change (f (g 0 x) >>= fun _ => (xs.mapIdx _).forM f) = (f x >>= fun _ => xs.forM f)
    rw [h, ih fun i => h (i + 1)]

theorem loadFill_swapped (r : Ref .world) (swaps : Triple Bool) (f : Fill) :
    loadFill r (f.swapped swaps) = loadFill r f := by
  have hswap (swap : Bool) (a b : Int32) :
      forBetween (if swap then b else a) (if swap then a else b) = forBetween a b := by
    cases swap with
    | false => rfl
    | true => exact forBetween_comm b a
  rw [loadFill, loadFill, Fill.swapped]
  simp only [hswap]

theorem loadWorld_swapped (s : Ref .server) (swaps : Nat → Triple Bool) (w : WorldSpec) :
    loadWorld s (w.swapped swaps) = loadWorld s w := by
  rw [loadWorld, loadWorld, WorldSpec.swapped]
  simp only [forM_mapIdx fun i f => loadFill_swapped _ (swaps i) f]

theorem load_swapped (swaps : Nat → Nat → Triple Bool) (x : Snapshot) :
    (x.swapped swaps).load = x.load := by
  rw [load, load, swapped]
  simp only [forM_mapIdx fun i w => loadWorld_swapped _ (swaps i) w]

/-- In a server that has been loaded, every block of every world has the material of the last box of
    that world in which it lies, and is air if it lies in none. Another choice of the corners of
    boxes does not change what is loaded. -/
theorem blocks_loaded (x : Snapshot) :
    (∀ o s realm, x.load (.ordered o) = (.ok s, realm) →
      (realm.loadedWorlds s).map World.name = x.worlds.map WorldSpec.name ∧
      (realm.loadedWorlds s).map (fun w => w.grid.get) = x.worlds.map WorldSpec.materialAt) ∧
    ∀ swaps, (x.swapped swaps).load = x.load := by
  refine ⟨fun o s realm hrun => ?_, fun swaps => load_swapped swaps x⟩
  have hload := checks_load_keeping (J := Built) (fun _ _ => rfl)
    (fun _ _ w _ => leads_loadWorld_built w)
    (fun _ _ p => (leads_loadPlayer_built p).mono fun _ h => h.2) x (.ordered o) rfl
  rw [hrun] at hload
  obtain ⟨-, ⟨-, hshows⟩, hbuilt⟩ := hload
  refine ⟨hshows.map_name_worlds, ?_⟩
  have hgets := congrArg (List.map Grid.get) hbuilt
  rw [List.map_map, List.map_map] at hgets
  exact hgets.trans (List.map_congr_left fun w _ => w.get_grid)

/-- A hollow cube with something in the middle: boxes that lie in each other, one of them of air. -/
def hollow : Snapshot :=
  { default with
    worlds :=
      [{ WorldSpec.default with
        name := "overworld"
        fills :=
          [⟨(2, 66, -2), (-2, 64, 2), .stone⟩, ⟨(-1, 65, 1), (1, 65, -1), .air⟩,
            ⟨(0, 65, 0), (0, 65, 0), .dirt⟩] }] }

/-- The middle of the cube, the hollow around it, an edge, and a block outside. -/
theorem blocks_loaded_hollow :
    ∃ s realm, hollow.load Realm.empty = (.ok s, realm) ∧
      ((realm.loadedWorlds s).map fun w =>
        [⟨0, 65, 0⟩, ⟨-1, 65, 1⟩, ⟨-2, 64, -2⟩, ⟨3, 65, 0⟩].map w.grid.get) =
          [[.dirt, .air, .stone, .air]] ∧
      (hollow.swapped fun _ _ => (true, false, true)).load = hollow.load := by
  obtain ⟨hblocks, hswapped⟩ := blocks_loaded hollow
  have hconsistent : hollow.Consistent := by decide +kernel
  obtain ⟨s, realm, hrun⟩ := hconsistent.exists_load fun _ => .sorted
  refine ⟨s, realm, hrun, ?_, hswapped _⟩
  have hgets := congrArg (List.map fun g : BlockPos → Material =>
    [⟨0, 65, 0⟩, ⟨-1, 65, 1⟩, ⟨-2, 64, -2⟩, ⟨3, 65, 0⟩].map g) (hblocks _ s realm hrun).2
  rw [List.map_map] at hgets
  exact hgets.trans (by decide)

end Snapshot

end Chainwalk
