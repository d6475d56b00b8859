import Chainwalk.Proofs.Inventory.Batches
import Chainwalk.Snapshot.Basic

/-!
# Packing is tight

However items of many materials are added to empty slots, the stacks of each material have room for
less than one more stack, so that there is never a stack too many of it. The slots taken are then as
few as there can be, and items are given back only when there are more than any packing could hold.

* `Inventory.Tight`: slots without a stack too many, which adding keeps (`Inventory.Tight.added`);
* `Inventory.slotsFor`: the fewest slots that so many items of every material take;
* `Inventory.Tight.fits_iff`: one more lot fits exactly if there are slots enough for all;
* `Inventory.addEach`, `Inventory.held_addEach`: lots that are added one after another;
* `Inventory.Tight.allFit_iff`, `Inventory.Tight.items_packed_iff`: when none of their items is given
  back, and when all of them are in the slots.
-/

namespace Chainwalk

instance : Fintype Material := Fintype.ofList Enumerated.all Material.mem_all

theorem Material.toNat_maxStackSize_pos (m : Material) : 0 < m.maxStackSize.toNat :=
  UInt8.lt_iff_toNat_lt.1 m.maxStackSize_pos

namespace Inventory

variable (m : Material) {m' : Material} {v : List (Option ItemStack)}

/-! ## Stacks of a material -/

/-- How many stacks of the material a slot holds. -/
def stackIn : Option ItemStack → Nat
  | some s => if s.material = m then 1 else 0
  | none => 0

/-- How many stacks of the material slots hold. -/
def stackCount (v : List (Option ItemStack)) : Nat := (v.map (stackIn m)).sum

/-- What the stacks of a material hold and what they have room for make them full. -/
theorem room_add_items (hv : ∀ s, some s ∈ v → s.InBounds) :
    room m v + items m v = m.maxStackSize.toNat * stackCount m v := by
  have hslot : ∀ slot ∈ v,
      spaceIn m slot + itemsIn m slot = m.maxStackSize.toNat * stackIn m slot := by
    intro slot hslot
    cases slot with
    | none => rfl
    | some s =>
      rw [spaceIn, itemsIn, stackIn]
      split
      · rename_i hm
        have hmax : s.count.toNat ≤ s.maxSize.toNat := UInt8.le_iff_toNat_le.1 (hv s hslot)
        rw [s.toNat_space, ItemStack.maxSize, hm, Nat.mul_one] at *
        omega
      · rfl
  rw [room, items, stackCount, ← List.sum_map_add, ← List.sum_map_mul_left]
  exact congrArg List.sum (List.map_congr_left hslot)

/-- Every slot holds a stack of one material, or none. -/
theorem sum_stackCount (v : List (Option ItemStack)) :
    ∑ m, stackCount m v + v.count none = v.length := by
  induction v with
  | nil => simp [stackCount]
  | cons slot v ih =>
    have hcons (m : Material) : stackCount m (slot :: v) = stackIn m slot + stackCount m v := rfl
    simp only [hcons, Finset.sum_add_distrib, List.length_cons, ← ih]
    cases slot with
    | none => simp [stackIn, Nat.add_assoc]
    | some s => simp [stackIn]; omega

/-! ## Tight slots -/

/-- Slots in which no material has a stack too many. -/
structure Tight (v : List (Option ItemStack)) : Prop where
  inBounds : ∀ s, some s ∈ v → s.InBounds
  room_lt : ∀ m, room m v < m.maxStackSize.toNat

theorem Tight.empty (n : Nat) : Tight (List.replicate n none) := by
  refine ⟨fun s hs => ?_, fun m => ?_⟩
  · cases List.eq_of_mem_replicate hs
  · rw [room, List.map_replicate, spaceIn, List.sum_replicate, smul_zero]
    exact m.toNat_maxStackSize_pos

theorem spaceIn_topUp_of_ne (hne : m' ≠ m) (slot : Option ItemStack) (n : Nat) :
    spaceIn m' (topUp m slot n) = spaceIn m' slot := by
  cases slot with
  | none => rfl
  | some s =>
    rw [topUp]
    split
    · rename_i hm
      rw [spaceIn, spaceIn, if_neg (hm ▸ hne.symm), if_neg (hm ▸ hne.symm)]
    · rfl

theorem spaceIn_occupy_of_ne (hne : m' ≠ m) (slot : Option ItemStack) (n : Nat) :
    spaceIn m' (occupy m slot n) = spaceIn m' slot := by
  cases slot with
  | some s => rfl
  | none =>
    rw [occupy]
    split
    · rfl
    · rw [spaceIn, if_neg hne.symm, spaceIn]

theorem room_added_of_ne (hne : m' ≠ m) (v : List (Option ItemStack)) (n : Nat) :
    room m' (added m v n) = room m' v := by
  rw [room, added, map_pour (spaceIn_occupy_of_ne m hne), map_pour (spaceIn_topUp_of_ne m hne),
    room]

/-- Of new stacks only the last may have room, and not for a whole stack. -/
theorem room_place_lt (h : room m v = 0) (n : Nat) :
    room m (pour (vacancyIn m) (occupy m) v n) < m.maxStackSize.toNat := by
  have hpos := m.toNat_maxStackSize_pos
  induction v generalizing n with
  | nil => exact hpos
  | cons slot v ih =>
    by_cases hn : n = 0
    · rwa [hn, pour_vacancyIn_zero, h]
    rw [room, List.map_cons, List.sum_cons, Nat.add_eq_zero_iff, ← room] at h
    rw [pour, room, List.map_cons, List.sum_cons, ← room]
    cases slot with
    | some s =>
      rw [occupy, h.1, Nat.zero_add]
      exact ih h.2 _
    | none =>
      rw [spaceIn_occupy m hn, vacancyIn]
      rcases Nat.le_total m.maxStackSize.toNat n with hfull | hlast
      · rw [Nat.sub_eq_zero_of_le hfull, Nat.zero_add]
        exact ih h.2 _
      · rw [Nat.sub_eq_zero_of_le hlast, pour_vacancyIn_zero, h.2]
        omega

/-- Adding keeps slots tight. -/
theorem Tight.added (h : Tight v) (n : Nat) : Tight (added m v n) := by
  refine ⟨inBounds_added m h.inBounds n, fun m' => ?_⟩
  by_cases hm : m' = m
  · subst hm
    rcases Nat.le_total n (room m' v) with hfits | hexceeds
    · rw [added_of_le_room m' hfits, room_topUp]
      exact (Nat.sub_le _ _).trans_lt (h.room_lt m')
    · refine room_place_lt m' ?_ _
      rw [room_topUp, Nat.sub_eq_zero_of_le hexceeds]
  · rw [room_added_of_ne m hm]
    exact h.room_lt m'

/-- The stacks of a material are as few as there can be. -/
theorem Tight.stackCount_eq (h : Tight v) : stackCount m v = items m v ⌈/⌉ m.maxStackSize.toNat := by
  have hsum := room_add_items m h.inBounds
  have hroom := h.room_lt m
  have hpos := m.toNat_maxStackSize_pos
  have hle : items m v ⌈/⌉ m.maxStackSize.toNat ≤ stackCount m v :=
    (ceilDiv_le_iff_le_mul hpos).2 (by omega)
  have hge : items m v ≤ m.maxStackSize.toNat * (items m v ⌈/⌉ m.maxStackSize.toNat) :=
    (ceilDiv_le_iff_le_mul hpos).1 le_rfl
  have hlt : m.maxStackSize.toNat * stackCount m v <
      m.maxStackSize.toNat * (items m v ⌈/⌉ m.maxStackSize.toNat + 1) := by
    rw [Nat.mul_succ]
    omega
  exact Nat.le_antisymm (Nat.le_of_lt_succ (Nat.lt_of_mul_lt_mul_left hlt)) hle

/-! ## Slots for items -/

/-- The fewest slots that so many items of every material take. -/
def slotsFor (need : Material → Nat) : Nat := ∑ m, need m ⌈/⌉ m.maxStackSize.toNat

theorem slotsFor_mono {need need' : Material → Nat} (h : ∀ m, need m ≤ need' m) :
    slotsFor need ≤ slotsFor need' := by
  refine Finset.sum_le_sum fun m _ => ?_
  exact (gc_mul_ceilDiv m.toNat_maxStackSize_pos).monotone_l (h m)

/-- Tight slots take as few slots as there can be. -/
theorem Tight.slotsFor_items (h : Tight v) :
    slotsFor (fun m => items m v) + v.count none = v.length := by
  have hstacks : slotsFor (fun m => items m v) = ∑ m, stackCount m v :=
    Finset.sum_congr rfl fun m _ => (h.stackCount_eq m).symm
  rw [hstacks, sum_stackCount]

/-- How many items of a material there are with those of a lot. -/
def withLot (v : List (Option ItemStack)) (n : Nat) (m' : Material) : Nat :=
  items m' v + if m = m' then n else 0

theorem items_added_of_le {n : Nat} (hn : n ≤ capacity m v) :
    (fun m' => items m' (added m v n)) = withLot m v n := by
  funext m'
  rw [withLot]
  split
  · rename_i hm
    rw [← hm, items_added, Nat.min_eq_left hn]
  · rename_i hm
    rw [items_added_of_ne m (Ne.symm hm), Nat.add_zero]

/-- No items come in but those of the lot. -/
theorem items_added_le (v : List (Option ItemStack)) (n : Nat) (m' : Material) :
    items m' (added m v n) ≤ withLot m v n m' := by
  rw [withLot]
  split
  · rename_i hm
    rw [← hm, items_added]
    exact Nat.add_le_add_left (Nat.min_le_left _ _) _
  · rename_i hm
    rw [items_added_of_ne m (Ne.symm hm), Nat.add_zero]

theorem length_pour {room : Option ItemStack → Nat}
    {change : Option ItemStack → Nat → Option ItemStack} (v : List (Option ItemStack)) (n : Nat) :
    (pour room change v n).length = v.length := by
  induction v generalizing n with
  | nil => rfl
  | cons slot v ih => rw [pour, List.length_cons, List.length_cons, ih]

theorem length_added (v : List (Option ItemStack)) (n : Nat) : (added m v n).length = v.length := by
  rw [added, length_pour, length_pour]

/-- One more lot fits exactly if there are slots enough for all items. -/
theorem Tight.fits_iff (h : Tight v) (n : Nat) :
    n ≤ capacity m v ↔ slotsFor (withLot m v n) ≤ v.length := by
  have hslots := (h.added m n).slotsFor_items
  rw [length_added] at hslots
  constructor
  · intro hn
    rw [items_added_of_le m hn] at hslots
    omega
  · -- Where a lot does not fit, the slots are full without the rest of it.
    contrapose!
    intro hn
    have hpos := m.toNat_maxStackSize_pos
    have hcapacity := capacity_added m v n
    rw [Nat.sub_eq_zero_of_le hn.le, capacity, Nat.add_eq_zero_iff, Nat.mul_eq_zero] at hcapacity
    obtain ⟨hroom, hnone⟩ := hcapacity
    rw [hnone.resolve_left hpos.ne', Nat.add_zero] at hslots
    rw [← hslots]
    refine Finset.sum_lt_sum (fun m' _ => ?others) ⟨m, Finset.mem_univ m, ?lot⟩
    case others =>
      exact (gc_mul_ceilDiv m'.toNat_maxStackSize_pos).monotone_l (items_added_le m v n m')
    case lot =>
      have hfull := room_add_items m (h.added m n).inBounds
      rw [hroom, Nat.zero_add] at hfull
      have hless : items m (Inventory.added m v n) < withLot m v n m := by
        rw [items_added, withLot, if_pos rfl]
        omega
      rw [← (h.added m n).stackCount_eq m]
      refine Nat.lt_of_not_le fun hle => ?_
      have hneed := (ceilDiv_le_iff_le_mul hpos).1 hle
      omega

/-! ## One lot after another -/

variable {i : Inventory} {table : Stacks}

/-- The inventory with lots of items added one after another, how many of each lot did not fit, and
    the stacks. -/
def addEach : Inventory → Stacks → List ItemSpec → Inventory × List UInt8 × Stacks
  | i, table, [] => (i, [], table)
  | i, table, x :: rest =>
    let (i, left, table) := i.add x.material x.count table
    let (i, lefts, table) := addEach i table rest
    (i, left :: lefts, table)

/-- How many items of a material there are in some lots. -/
def total (lots : List ItemSpec) (m : Material) : Nat :=
  (lots.map fun x => if x.material = m then x.count.toNat else 0).sum

/-- What slots hold when lots have been added one after another. -/
def packed (v : List (Option ItemStack)) (lots : List ItemSpec) : List (Option ItemStack) :=
  lots.foldl (fun v x => added x.material v x.count.toNat) v

/-- Whether all items of all lots fit, one lot after another. -/
def AllFit : List (Option ItemStack) → List ItemSpec → Prop
  | _, [] => True
  | v, x :: rest =>
    x.count.toNat ≤ capacity x.material v ∧ AllFit (added x.material v x.count.toNat) rest

theorem total_cons (x : ItemSpec) (rest : List ItemSpec) (m : Material) :
    total (x :: rest) m = (if x.material = m then x.count.toNat else 0) + total rest m := rfl

/-- Items of a lot that fits are in the slots instead of in the lots. -/
theorem items_added_add_total {x : ItemSpec} (hn : x.count.toNat ≤ capacity x.material v)
    (rest : List ItemSpec) (m : Material) :
    items m (added x.material v x.count.toNat) + total rest m =
      items m v + total (x :: rest) m := by
  rw [total_cons, ← Nat.add_assoc]
  exact congrArg (· + total rest m) (congrFun (items_added_of_le x.material hn) m)

/-- Which lots come first does not matter for how many items there are. -/
theorem total_perm {lots lots' : List ItemSpec} (h : lots.Perm lots') : total lots = total lots' :=
  funext fun _ => (h.map _).sum_eq

theorem Tight.packed (h : Tight v) (lots : List ItemSpec) : Tight (packed v lots) := by
  induction lots generalizing v with
  | nil => exact h
  | cons x rest ih => exact ih (h.added x.material x.count.toNat)

theorem length_packed (v : List (Option ItemStack)) (lots : List ItemSpec) :
    (packed v lots).length = v.length := by
  induction lots generalizing v with
  | nil => rfl
  | cons x rest ih => exact (ih _).trans (length_added x.material v x.count.toNat)

/-- All items are in the slots if all of them fit. -/
theorem AllFit.items_packed {lots : List ItemSpec} (h : AllFit v lots) (m : Material) :
    items m (Inventory.packed v lots) = items m v + total lots m := by
  induction lots generalizing v with
  | nil => rfl
  | cons x rest ih => exact (ih h.2).trans (items_added_add_total h.1 rest m)

/-- All lots fit exactly if there are slots enough for all items. -/
theorem Tight.allFit_iff (h : Tight v) (lots : List ItemSpec) :
    AllFit v lots ↔ slotsFor (fun m => items m v + total lots m) ≤ v.length := by
  induction lots generalizing v with
  | nil =>
    have hslots := h.slotsFor_items
    have hitems : (fun m => items m v + total [] m) = fun m => items m v := rfl
    rw [hitems]
    exact iff_of_true trivial (by omega)
  | cons x rest ih =>
    have hfits := h.fits_iff x.material x.count.toNat
    rw [AllFit, ih (h.added x.material x.count.toNat), length_added]
    by_cases hn : x.count.toNat ≤ capacity x.material v
    · rw [and_iff_right hn, funext (items_added_add_total hn rest)]
    · refine iff_of_false (fun hand => hn hand.1) fun hle => hn (hfits.2 (le_trans ?_ hle))
      refine slotsFor_mono fun m => ?_
      rw [total_cons, ← Nat.add_assoc]
      exact Nat.le_add_right _ _

/-- All items are in the slots exactly if there are slots enough for them. -/
theorem Tight.items_packed_iff (h : Tight v) (lots : List ItemSpec) :
    (∀ m, items m (Inventory.packed v lots) = items m v + total lots m) ↔
      slotsFor (fun m => items m v + total lots m) ≤ v.length := by
  refine ⟨fun hall => ?_, fun hle => ((h.allFit_iff lots).2 hle).items_packed⟩
  have hslots := (h.packed lots).slotsFor_items
  rw [funext hall, length_packed] at hslots
  omega

/-- Adding lots to an inventory is packing them into its slots, and all that is given back is
    nothing exactly if they fit. -/
theorem held_addEach (h : Tidy i.slots table) (lots : List ItemSpec) :
    Tidy (i.addEach table lots).1.slots (i.addEach table lots).2.2 ∧
      held (i.addEach table lots).1.slots (i.addEach table lots).2.2 =
        packed (held i.slots table) lots ∧
      ((∀ left ∈ (i.addEach table lots).2.1, left = 0) ↔ AllFit (held i.slots table) lots) := by
  induction lots generalizing i table with
  | nil => exact ⟨h, rfl, iff_of_true (List.forall_mem_nil _) trivial⟩
  | cons x rest ih =>
    obtain ⟨hheld, hleft⟩ := held_add x.material h (n := x.count)
    obtain ⟨htidy, hpacked, hlefts⟩ := ih (h.rearranged (rearranges_add x.material h.present))
    rw [hheld] at hpacked hlefts
    refine ⟨htidy, hpacked, ?_⟩
    rw [addEach, List.forall_mem_cons, hlefts, AllFit, ← UInt8.toNat_inj, hleft, UInt8.toNat_zero,
      Nat.sub_eq_zero_iff_le]

/-! ## Empty inventories -/

theorem held_empty (table : Stacks) :
    held empty.slots table = List.replicate inventorySize none :=
  List.map_replicate

theorem tidy_empty (table : Stacks) : Tidy empty.slots table := by
  refine ⟨fun r hr => ?_, List.pairwise_replicate.2 (.inr fun _ => rfl)⟩
  cases List.eq_of_mem_replicate hr

theorem items_replicate_none (n : Nat) : items m (List.replicate n none) = 0 := by
  rw [items, List.map_replicate, itemsIn, List.sum_replicate, smul_zero]

/-- The slots that are not empty have the stacks. -/
theorem length_contents (h : Tidy i.slots table) :
    i.contents.length + (held i.slots table).count none = inventorySize := by
  have hslots : i.contents.length = i.slots.countP Option.isSome := by
    have hcount := List.countP_map (p := Option.isSome) (f := Prod.fst) (l := i.slots.zipIdx)
    rw [List.zipIdx_map_fst] at hcount
    rw [contents, List.length_filterMap_eq_countP, hcount]
    simp [Function.comp_def]
  have hnone : (held i.slots table).count none = i.slots.countP (¬·.isSome) := by
    rw [held, List.count_eq_countP, List.countP_map]
    refine List.countP_congr fun slot hslot => ?_
    cases slot with
    | none => simp
    | some r => simpa using Option.isSome_iff_ne_none.1 (h.present r hslot)
  rw [hslots, hnone, ← i.length_slots, List.length_eq_countP_add_countP Option.isSome]

/-- What an inventory holds to which lots have been added when it was empty: all their items exactly
    if there are slots enough for them, and then in as few slots as there can be. -/
theorem held_packed (h : Tidy i.slots table) (lots : List ItemSpec)
    (hheld : held i.slots table = packed (List.replicate inventorySize none) lots) :
    ((∀ m, (i.count m table).toNat = total lots m) ↔ slotsFor (total lots) ≤ inventorySize) ∧
      (slotsFor (total lots) ≤ inventorySize → i.contents.length = slotsFor (total lots)) := by
  have hiff := (Tight.empty inventorySize).items_packed_iff lots
  have hcontents := length_contents h
  have hslots := ((Tight.empty inventorySize).packed lots).slotsFor_items
  simp only [items_replicate_none, Nat.zero_add, List.length_replicate, ← hheld] at hiff
  rw [length_packed, List.length_replicate, ← hheld] at hslots
  simp only [toNat_count]
  refine ⟨hiff, fun hle => ?_⟩
  rw [funext (hiff.2 hle)] at hslots
  omega

end Inventory

end Chainwalk
