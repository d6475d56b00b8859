import Chainwalk.Proofs.Snapshot.Acceptance

/-!
# The grid of a world

A world stores the cells that are not air, and only materials that blocks have, at the heights where
there are blocks. What is not stored is air, so that putting air takes the cell out of the store. Seen
from outside every cell has a material nevertheless: the one that was last put there.

* `foldl_eq_getLast?`, `foldl_eq_ite`: of changes one after another, the last one that is seen
  counts;
* `Grid.Sound`: the grids that a world may have;
* `Grid.Sound.highest?_eq_some_iff`, `Grid.Sound.highest?_eq_none_iff`: the top of a column;
* `Realm.run_setBlock`: what putting a material into a cell does, and when it is refused;
* `Placement`: a call that puts a material, through a world or through a block;
* `Realm.grid_placing`: the grid of a new world after any such calls.
-/

namespace Chainwalk

/-- Of changes one after another, the last one that is seen counts. -/
theorem foldl_eq_getLast? {α β γ : Type} {change : β → α → β} (see : β → γ) {seen : α → Prop}
    [DecidablePred seen] {shown : α → γ}
    (h : ∀ b a, see (change b a) = if seen a then shown a else see b) (as : List α) (b : β) :
    see (as.foldl change b) = ((as.filter (seen ·)).getLast?.map shown).getD (see b) := by
  induction as generalizing b with
  | nil => rfl
  | cons a as ih =>
    rw [List.foldl_cons, ih, h, List.filter_cons]
    by_cases ha : seen a
    · rw [if_pos ha, if_pos (decide_eq_true ha), List.getLast?_cons, Option.map_some,
        Option.getD_some, Option.getD_map]
    · rw [if_neg ha, if_neg (by simpa using ha)]

/-- Of changes that all show the same, it does not matter which one is the last. -/
theorem foldl_eq_ite {α β γ : Type} {change : β → α → β} (see : β → γ) {seen : α → Prop}
    [DecidablePred seen] {c : γ} (h : ∀ b a, see (change b a) = if seen a then c else see b)
    (as : List α) (b : β) :
    see (as.foldl change b) = if ∃ a ∈ as, seen a then c else see b := by
  rw [foldl_eq_getLast? see h]
  split
  case isTrue hseen =>
    obtain ⟨a, ha, hs⟩ := hseen
    have hmem : a ∈ as.filter (seen ·) := List.mem_filter.2 ⟨ha, decide_eq_true hs⟩
    rw [List.getLast?_eq_some_getLast (List.ne_nil_of_mem hmem)]
    rfl
  case isFalse hseen =>
    have hnil : as.filter (seen ·) = [] := by
      rw [List.filter_eq_nil_iff]
      exact fun a ha hs => hseen ⟨a, ha, of_decide_eq_true hs⟩
    rw [hnil]
    rfl

/-! ## Grids -/

instance (y : Int32) : Decidable (IsHeight y) :=
  inferInstanceAs (Decidable (minHeight ≤ y ∧ y < maxHeight))

/-- Whether a material may be put into a cell. -/
def IsPlaceable (p : BlockPos) (m : Material) : Prop := IsHeight p.y ∧ m.isBlock

instance (p : BlockPos) (m : Material) : Decidable (IsPlaceable p m) :=
  inferInstanceAs (Decidable (IsHeight p.y ∧ m.isBlock))

instance lawfulOrderMax_int32 : Std.LawfulOrderMax Int32 where
  max_eq_or a b := by
    have hmax : max a b = if a ≤ b then b else a := rfl
    rw [hmax]
    split
    · exact .inr rfl
    · exact .inl rfl
  max_le_iff a b c := by
    have hmax : max a b = if a ≤ b then b else a := rfl
    rw [hmax]
    simp only [Int32.le_iff_toInt_le]
    split <;> omega

namespace Grid

variable {g : Grid} {p : BlockPos} {m : Material} {x y z : Int32}

/-- A grid that stores what may be put, and no air. -/
def Sound (g : Grid) : Prop := ∀ p m, g.cells[p]? = some m → m ≠ .air ∧ IsPlaceable p m

theorem sound_empty : empty.Sound := by
  intro p m hm
  simp [empty] at hm

/-- Putting what may be put keeps a grid sound. -/
theorem Sound.set (hg : g.Sound) (hp : IsPlaceable p m) : (g.set p m).Sound := by
  intro q n hq
  rw [Grid.set] at hq
  split at hq
  · rw [Std.HashMap.getElem?_erase] at hq
    split at hq
    · cases hq
    · exact hg q n hq
  · rename_i hair
    rw [Std.HashMap.getElem?_insert] at hq
    split at hq
    · rename_i heq
      cases beq_iff_eq.1 heq
      cases hq
      exact ⟨hair, hp⟩
    · exact hg q n hq

/-- The heights of the cells of a column that are not air. -/
def heights (g : Grid) (x z : Int32) : List Int32 :=
  (g.cells.keys.filter fun p => p.x = x && p.z = z).map BlockPos.y

theorem highest?_eq_max? (g : Grid) (x z : Int32) : g.highest? x z = (g.heights x z).max? := by
  have hfrom (ys : List Int32) (top : Int32) :
      ys.foldl (fun top y => some (top.elim y (max · y))) (some top) = some (ys.foldl max top) := by
    induction ys generalizing top with
    | nil => rfl
    | cons y ys ih => exact ih _
  rw [highest?, ← heights]
  cases g.heights x z with
  | nil => rfl
  | cons y ys => exact hfrom ys y

/-- The cells that are stored are those that are seen not to be air. -/
theorem Sound.mem_heights_iff (hg : g.Sound) : y ∈ g.heights x z ↔ g.get ⟨x, y, z⟩ ≠ .air := by
  have hstored : (⟨x, y, z⟩ : BlockPos) ∈ g.cells ↔ g.get ⟨x, y, z⟩ ≠ .air := by
    rw [Std.HashMap.mem_iff_isSome_getElem?, Grid.get]
    cases hm : g.cells[(⟨x, y, z⟩ : BlockPos)]? with
    | none => simp
    | some m => simpa using (hg _ m hm).1
  rw [← hstored, heights, List.mem_map]
  constructor
  · rintro ⟨p, hp, rfl⟩
    simp only [List.mem_filter, Std.HashMap.mem_keys, Bool.and_eq_true, decide_eq_true_eq] at hp
    obtain ⟨hp, rfl, rfl⟩ := hp
    exact hp
  · intro hp
    exact ⟨⟨x, y, z⟩, by simpa using hp, rfl⟩

/-- The top of a column is its greatest height that is not air. -/
theorem Sound.highest?_eq_some_iff (hg : g.Sound) :
    g.highest? x z = some y ↔
      g.get ⟨x, y, z⟩ ≠ .air ∧ ∀ y', g.get ⟨x, y', z⟩ ≠ .air → y' ≤ y := by
  rw [highest?_eq_max?, List.max?_eq_some_iff, hg.mem_heights_iff]
  simp only [hg.mem_heights_iff]

/-- Only a column of air has no top. -/
theorem Sound.highest?_eq_none_iff (hg : g.Sound) :
    g.highest? x z = none ↔ ∀ y, g.get ⟨x, y, z⟩ = .air := by
  rw [highest?_eq_max?, List.max?_eq_none_iff, List.eq_nil_iff_forall_not_mem]
  simp only [hg.mem_heights_iff, not_not]

end Grid

/-! ## Putting materials -/

namespace Realm

variable {realm : Realm} {r : Ref .world} {p : BlockPos} {m : Material}

/-- The realm where the grid of a world is another one. -/
def rebuilt (r : Ref .world) (G : Grid → Grid) (realm : Realm) : Realm :=
  { realm with worlds := realm.worlds.modify r fun w => { w with grid := G w.grid } }

theorem rebuilt_rebuilt (G H : Grid → Grid) :
    (realm.rebuilt r G).rebuilt r H = realm.rebuilt r (H ∘ G) :=
  congrArg (fun worlds => { realm with worlds }) (realm.worlds.modify_modify r _ _)

theorem rebuilt_id : realm.rebuilt r id = realm :=
  congrArg (fun worlds => { realm with worlds }) (realm.worlds.modify_id r)

/-- A world that is there stays, with its other grid. -/
theorem get?_rebuilt {w : World} (hw : realm.worlds.get? r = some w) (G : Grid → Grid) :
    (realm.rebuilt r G).worlds.get? r = some { w with grid := G w.grid } := by
  rw [rebuilt, Table.get?_modify, if_pos rfl, hw, Option.map_some]

theorem material_eq {w : World} (hw : realm.worlds.get? r = some w) (pos : BlockPos) :
    realm.material ⟨r, pos⟩ = w.grid.get pos := by
  rw [material, hw, Option.map_some, Option.getD_some]

/-- Why a material cannot be put into a cell. -/
def placingRefusal (p : BlockPos) (m : Material) : Refusal :=
  if IsHeight p.y then .notPlaceable m else .heightOutside p.y

/-- Putting a material changes the one cell, or is refused and changes nothing. -/
theorem run_setBlock (r : Ref .world) (p : BlockPos) (m : Material) (realm : Realm) :
    setBlock r p m realm =
      if IsPlaceable p m then (.ok (), realm.rebuilt r (·.set p m))
      else (.error (placingRefusal p m), realm) := by
  have hheight : (p.y < minHeight || maxHeight ≤ p.y) = true ↔ ¬IsHeight p.y := by
    simp [IsHeight, imp_iff_not_or]
  by_cases hy : IsHeight p.y
  · by_cases hm : m.isBlock
    · rw [if_pos ⟨hy, hm⟩, setBlock, if_neg (mt hheight.1 (not_not.2 hy)), if_neg (by simpa using hm)]
      rfl
    · rw [if_neg fun h => hm h.2, setBlock, if_neg (mt hheight.1 (not_not.2 hy)),
        if_pos (by simpa using hm), placingRefusal, if_pos hy]
      rfl
  · rw [if_neg fun h => hy h.1, setBlock, if_pos (hheight.2 hy), placingRefusal, if_neg hy]
    rfl

/-- A block puts a material as its world does, as long as that is loaded. -/
theorem run_setMaterial {w : World} (hw : realm.worlds.get? r = some w) :
    setMaterial ⟨r, p⟩ m realm = setBlock r p m realm := by
  have hget : (get : RealmM Realm) realm = (.ok realm, realm) := rfl
  rw [setMaterial, getWorld, bind_apply, bind_apply, hget]
  dsimp only
  rw [hw]
  rfl

end Realm

/-- Who is asked to put a material into a cell. -/
inductive Placer
  | world
  | block

/-- A call that puts a material into a cell. -/
structure Placement where
  placer : Placer
  pos : BlockPos
  material : Material

namespace Placement

/-- The call, in a world. -/
def call (p : Placement) (r : Ref .world) : RealmM Unit :=
  match p.placer with
  | .world => Realm.setBlock r p.pos p.material
  | .block => Realm.setMaterial ⟨r, p.pos⟩ p.material

/-- Whether the call may be made. -/
abbrev Allowed (p : Placement) : Prop := IsPlaceable p.pos p.material

/-- What the call makes of a grid. -/
def rebuild (g : Grid) (p : Placement) : Grid := if p.Allowed then g.set p.pos p.material else g

/-- The material that the last of some calls for a cell has put there, of those that are allowed. -/
def last (ps : List Placement) (pos : BlockPos) : Material :=
  ((ps.filter fun p => p.Allowed ∧ p.pos = pos).getLast?.map material).getD .air

theorem sound_foldl_rebuild {g : Grid} (hg : g.Sound) (ps : List Placement) :
    (ps.foldl rebuild g).Sound := by
  induction ps generalizing g with
  | nil => exact hg
  | cons p ps ih =>
    refine ih ?_
    rw [rebuild]
    split
    · rename_i hp
      exact hg.set hp
    · exact hg

theorem get_foldl_rebuild (ps : List Placement) (pos : BlockPos) :
    (ps.foldl rebuild .empty).get pos = last ps pos := by
  have hseen (g : Grid) (p : Placement) : (rebuild g p).get pos =
      if p.Allowed ∧ p.pos = pos then p.material else g.get pos := by
    rw [rebuild]
    by_cases hp : p.Allowed
    · rw [if_pos hp, Grid.get_set]
      simp [hp, eq_comm (a := pos)]
    · simp [hp]
  rw [foldl_eq_getLast? (fun g : Grid => g.get pos) hseen, Grid.get_empty, last]

variable {realm : Realm} {r : Ref .world} {w : World}

theorem run_call (hw : realm.worlds.get? r = some w) (p : Placement) :
    p.call r realm =
      if p.Allowed then (.ok (), realm.rebuilt r (rebuild · p))
      else (.error (Realm.placingRefusal p.pos p.material), realm) := by
  have hsame : p.call r realm = Realm.setBlock r p.pos p.material realm := by
    obtain ⟨placer, pos, m⟩ := p
    cases placer with
    | world => rfl
    | block => exact Realm.run_setMaterial hw
  rw [hsame, Realm.run_setBlock]
  by_cases hp : p.Allowed
  · have hrebuild : (rebuild · p) = (·.set p.pos p.material) := funext fun g => if_pos hp
    rw [if_pos hp, if_pos hp, hrebuild]
  · rw [if_neg hp, if_neg hp]

end Placement

namespace Realm

variable {realm : Realm} {r : Ref .world}

/-- The realm after calls in a world that put materials, the refused ones among them. -/
def placing (r : Ref .world) (ps : List Placement) (realm : Realm) : Realm :=
  ps.foldl (fun realm p => (p.call r realm).2) realm

/-- Calls that put materials change the grid of their world, and nothing else. -/
theorem placing_eq {w : World} (hw : realm.worlds.get? r = some w) (ps : List Placement) :
    realm.placing r ps = realm.rebuilt r (ps.foldl Placement.rebuild) := by
  -- For all realms that have the world, since each call leaves another one.
  induction ps generalizing realm w with
  | nil => exact rebuilt_id.symm
  | cons p ps ih =>
    have hcall : (p.call r realm).2 = realm.rebuilt r (Placement.rebuild · p) := by
      rw [Placement.run_call hw]
      split
      · rfl
      · rename_i hp
        have hrebuild : (Placement.rebuild · p) = id := funext fun g => if_neg hp
        rw [hrebuild, rebuilt_id]
    have hrest := ih (get?_rebuilt hw (Placement.rebuild · p))
    rw [rebuilt_rebuilt, ← hcall] at hrest
    exact hrest

/-- The grid of a new world after any calls that put materials. It stores what may be put, and no
    air; every cell has the material that the last call for it has put there, of those that were not
    refused; and the top of a column is its greatest height that is not air. One more call is refused
    exactly if its cell has no height of blocks or its material is none of theirs, and then it
    changes nothing; else it changes the one cell. -/
theorem grid_placing {name : String} {seed : UInt64} {server : Option (Ref .server)}
    (hr : realm.worlds.get? r = some (.make name seed server)) (ps : List Placement) :
    ∃ g : Grid,
      realm.placing r ps = realm.rebuilt r (fun _ => g) ∧
      g.Sound ∧
      (∀ pos, g.get pos = Placement.last ps pos ∧
        (realm.placing r ps).material ⟨r, pos⟩ = Placement.last ps pos) ∧
      (∀ x y z, g.highest? x z = some y ↔
        g.get ⟨x, y, z⟩ ≠ .air ∧ ∀ y', g.get ⟨x, y', z⟩ ≠ .air → y' ≤ y) ∧
      (∀ x z, g.highest? x z = none ↔ ∀ y, g.get ⟨x, y, z⟩ = .air) ∧
      ∀ p : Placement,
        (p.Allowed →
          (p.call r (realm.placing r ps)).1 = .ok () ∧
          ∀ pos, (p.call r (realm.placing r ps)).2.material ⟨r, pos⟩ =
            if pos = p.pos then p.material else (realm.placing r ps).material ⟨r, pos⟩) ∧
        (¬p.Allowed →
          p.call r (realm.placing r ps) =
            (.error (placingRefusal p.pos p.material), realm.placing r ps)) := by
  let g : Grid := ps.foldl Placement.rebuild .empty
  have hsound : g.Sound := Placement.sound_foldl_rebuild Grid.sound_empty ps
  have hafter : realm.placing r ps = realm.rebuilt r (fun _ => g) :=
    (placing_eq hr ps).trans
      (congrArg (fun worlds => { realm with worlds }) (Table.modify_congr hr
        (f := fun w => { w with grid := ps.foldl Placement.rebuild w.grid })
        (g := fun w => { w with grid := g }) rfl))
  have hworld := get?_rebuilt hr fun _ => g
  rw [hafter]
  refine ⟨g, rfl, hsound, fun pos => ?_, fun x y z => hsound.highest?_eq_some_iff,
    fun x z => hsound.highest?_eq_none_iff, fun p => ⟨fun hp => ?allowed, fun hp => ?refused⟩⟩
  · have hlast : g.get pos = Placement.last ps pos := Placement.get_foldl_rebuild ps pos
    exact ⟨hlast, (material_eq hworld pos).trans hlast⟩
  case allowed =>
    rw [Placement.run_call hworld, if_pos hp]
    refine ⟨rfl, fun pos => ?_⟩
    rw [material_eq (get?_rebuilt hworld _), material_eq hworld, Placement.rebuild, if_pos hp,
      Grid.get_set]
  case refused =>
    rw [Placement.run_call hworld, if_neg hp]

/-- A cell that is emptied, and calls that are refused. -/
theorem grid_placing_emptied :
    let realm := (newWorld (.make "overworld" 42 none) Realm.empty).2
    let ps : List Placement :=
      [⟨.world, ⟨-1, 64, 2⟩, .stone⟩, ⟨.block, ⟨-1, 70, 2⟩, .dirt⟩, ⟨.world, ⟨-1, 64, 2⟩, .diamond⟩,
        ⟨.block, ⟨-1, 300, 2⟩, .stone⟩, ⟨.block, ⟨-1, 70, 2⟩, .air⟩]
    realm.worlds.get? ⟨0⟩ = some (.make "overworld" 42 none) ∧
      ∃ g : Grid,
        realm.placing ⟨0⟩ ps = realm.rebuilt ⟨0⟩ (fun _ => g) ∧
        g.Sound ∧ g.get ⟨-1, 64, 2⟩ = .stone ∧ g.get ⟨-1, 70, 2⟩ = .air ∧
        g.highest? (-1) 2 = some 64 ∧
        (Placement.mk .block ⟨-1, 256, 2⟩ .stone).call ⟨0⟩ (realm.placing ⟨0⟩ ps) =
          (.error (.heightOutside 256), realm.placing ⟨0⟩ ps) := by
  intro realm ps
  have hr : realm.worlds.get? ⟨0⟩ = some (.make "overworld" 42 none) :=
    Table.get?_insert_self .empty _
  obtain ⟨g, hafter, hsound, hlast, hsome, -, hcall⟩ := grid_placing hr ps
  have hget (pos : BlockPos) := (hlast pos).1
  refine ⟨hr, g, hafter, hsound, (hget _).trans (by decide), (hget _).trans (by decide),
    (hsome _ _ _).2 ⟨?_, fun y hy => ?_⟩, (hcall _).2 (by decide)⟩
  · rw [hget]
    decide
  · rw [hget] at hy
    by_cases hlow : y = 64
    · exact hlow ▸ Int32.le_refl y
    · refine absurd ?_ hy
      by_cases hhigh : y = 70
      · rw [hhigh]
        decide
      · have hrefused : ¬IsPlaceable ⟨-1, 300, 2⟩ .stone := by decide
        simp [Placement.last, ps, List.filter, Ne.symm hlow, Ne.symm hhigh, hrefused]

end Realm

end Chainwalk
