import Chainwalk.Proofs.Inventory.Adding

/-!
# Adding in batches

Items of one material may be added in batches or all at once, and it comes to the same. What a place
has taken it has no room for any more, so that a second amount poured along the same places goes
where the rest of a larger one would have gone. This settles the stacks that are there, and so it
does the new ones: the second batch first fills up the last new stack of the first one, which is the
only one that may not be full, and then goes on with the next empty slot.

* `pour_pour`: pouring one amount and then another is pouring both together;
* `Inventory.added_place`: adding to slots where new stacks have been placed is placing more;
* `Inventory.added_added`: what slots hold after two batches;
* `Inventory.capacity_added`: a batch takes up as much capacity as it has items, or all;
* `Inventory.add_in_batches`: two batches and both at once.
-/

namespace Chainwalk

/-! ## Pouring twice -/

section Pour

variable {α : Type} {room : α → Nat} {change : α → Nat → α}

/-- Pouring twice is pouring once, if a change uses up the room for what it takes. -/
theorem pour_pour (hroom : ∀ a n, room (change a n) = room a - n)
    (hchange : ∀ a n k, change (change a n) k = change a (n + k)) (l : List α) (n k : Nat) :
    pour room change (pour room change l n) k = pour room change l (n + k) := by
  induction l generalizing n k with
  | nil => rfl
  | cons a l ih =>
    have hrest : n - room a + (k - (room a - n)) = n + k - room a := by omega
    rw [pour, pour, pour, hchange, hroom, ih, hrest]

/-- Pouring changes nothing where nothing is changed by anything. -/
theorem pour_eq_self {l : List α} (h : ∀ a ∈ l, ∀ n, change a n = a) (n : Nat) :
    pour room change l n = l := by
  induction l generalizing n with
  | nil => rfl
  | cons a l ih =>
    rw [pour, h a List.mem_cons_self, ih fun b hb => h b (List.mem_cons_of_mem _ hb)]

end Pour

namespace Inventory

variable (m : Material) {v : List (Option ItemStack)}

/-! ## Stacks -/

theorem spaceIn_topUp (slot : Option ItemStack) (n : Nat) :
    spaceIn m (topUp m slot n) = spaceIn m slot - n := by
  cases slot with
  | none => rw [topUp, spaceIn, Nat.zero_sub]
  | some s =>
    obtain ⟨s', htopUp, hmaterial, hcount⟩ := exists_topUp m s n
    rw [htopUp, spaceIn, hmaterial]
    by_cases hm : s.material = m
    · rw [spaceIn, if_pos hm] at hcount ⊢
      rw [if_pos hm, s'.toNat_space, ItemStack.maxSize, hmaterial, ← ItemStack.maxSize, hcount,
        s.toNat_space]
      omega
    · rw [spaceIn, if_neg hm, if_neg hm, Nat.zero_sub]

theorem topUp_topUp (slot : Option ItemStack) (n k : Nat) :
    topUp m (topUp m slot n) k = topUp m slot (n + k) := by
  cases slot with
  | none => rfl
  | some s =>
    by_cases hm : s.material = m
    · obtain ⟨s', htopUp, hmaterial, hcount⟩ := exists_topUp m s n
      have hspace := spaceIn_topUp m (some s) n
      rw [htopUp, spaceIn, if_pos (hmaterial.trans hm), spaceIn, if_pos hm] at hspace
      rw [spaceIn, if_pos hm] at hcount
      have hboth : s.count.toNat + min n s.space.toNat + min k (s.space.toNat - n) =
          s.count.toNat + min (n + k) s.space.toNat := by omega
      rw [htopUp, topUp, if_pos (hmaterial.trans hm), hspace, hcount, hboth, topUp, if_pos hm,
        hmaterial]
    · rw [topUp, if_neg hm, topUp, if_neg hm, topUp, if_neg hm]

/-- What has been poured into the stacks there is no room for any more. -/
theorem room_topUp (v : List (Option ItemStack)) (n : Nat) :
    room m (pour (spaceIn m) (topUp m) v n) = room m v - n := by
  have hspace (slot : Option ItemStack) (n : Nat) :
      spaceIn m (topUp m slot n) + min n (spaceIn m slot) = spaceIn m slot := by
    rw [spaceIn_topUp]
    omega
  have hsum := sum_map_pour_of_loss hspace v n
  rw [← room, ← room] at hsum
  omega

/-- Stacks without room stay as they are. -/
theorem pour_topUp_of_room_eq_zero (h : room m v = 0) (n : Nat) :
    pour (spaceIn m) (topUp m) v n = v := by
  refine pour_eq_self (fun slot hslot n => topUp_eq_self m ?_) n
  rw [List.sum_eq_zero_iff.1 h _ (List.mem_map_of_mem hslot), Nat.min_zero]

/-- Only new stacks are placed if those that are there are full. -/
theorem added_of_room_eq_zero (h : room m v = 0) (n : Nat) :
    added m v n = pour (vacancyIn m) (occupy m) v n := by
  rw [added, pour_topUp_of_room_eq_zero m h, h, Nat.sub_zero]

/-- No new stack is placed if all items fit into those that are there. -/
theorem added_of_le_room {n : Nat} (h : n ≤ room m v) :
    added m v n = pour (spaceIn m) (topUp m) v n := by
  rw [added, Nat.sub_eq_zero_of_le h, pour_vacancyIn_zero]

/-! ## New stacks -/

/-- A slot with a stack takes what it can, and the other slots get the rest. -/
theorem added_cons_some (s : ItemStack) (v : List (Option ItemStack)) (n : Nat) :
    added m (some s :: v) n = topUp m (some s) n :: added m v (n - spaceIn m (some s)) := by
  obtain ⟨s', htopUp, -⟩ := exists_topUp m s n
  rw [added, pour, htopUp, pour, occupy, vacancyIn, Nat.sub_zero, added, room, List.map_cons,
    List.sum_cons, ← room, Nat.sub_sub]

/-- A new stack has room for what more than its items it can have. -/
theorem spaceIn_occupy {n : Nat} (hn : n ≠ 0) :
    spaceIn m (occupy m none n) = m.maxStackSize.toNat - n := by
  obtain ⟨s, hoccupy, hmaterial, hcount⟩ := exists_occupy m hn
  rw [hoccupy, spaceIn, if_pos hmaterial, s.toNat_space, ItemStack.maxSize, hmaterial, hcount]
  omega

theorem topUp_occupy {n : Nat} (hn : n ≠ 0) (k : Nat) :
    topUp m (occupy m none n) k = occupy m none (n + k) := by
  obtain ⟨s, hoccupy, hmaterial, hcount⟩ := exists_occupy m hn
  have hspace := spaceIn_occupy m hn
  rw [hoccupy, spaceIn, if_pos hmaterial] at hspace
  have hboth : min n m.maxStackSize.toNat + min k (m.maxStackSize.toNat - n) =
      min (n + k) m.maxStackSize.toNat := by omega
  rw [hoccupy, topUp, if_pos hmaterial, hspace, hcount, hboth, occupy, if_neg (by omega),
    hmaterial]

/-- Adding to slots where new stacks have been placed is placing more, if all other stacks are
    full. -/
theorem added_place (h : room m v = 0) (n k : Nat) :
    added m (pour (vacancyIn m) (occupy m) v n) k = pour (vacancyIn m) (occupy m) v (n + k) := by
  induction v generalizing n k with
  | nil => rfl
  | cons slot v ih =>
    rw [room, List.map_cons, List.sum_cons, Nat.add_eq_zero_iff, ← room] at h
    by_cases hn : n = 0
    · rw [hn, pour_vacancyIn_zero, Nat.zero_add]
      refine added_of_room_eq_zero m ?_ k
      rw [room, List.map_cons, List.sum_cons, h.1, ← room, h.2]
    cases slot with
    | some s =>
      rw [pour, occupy, vacancyIn, Nat.sub_zero, added_cons_some, h.1, Nat.sub_zero, ih h.2, pour,
        occupy, vacancyIn, Nat.sub_zero, topUp_eq_self m (by rw [h.1, Nat.min_zero])]
    | none =>
      -- Only this slot has a new stack that may not be full, or none before it has.
      obtain ⟨s, hs, -⟩ := exists_occupy m hn
      have hrest : n - m.maxStackSize.toNat + (k - (m.maxStackSize.toNat - n)) =
          n + k - m.maxStackSize.toNat := by omega
      rw [pour, hs, added_cons_some, ← hs, topUp_occupy m hn, spaceIn_occupy m hn, vacancyIn,
        ih h.2, hrest]
      rfl

/-! ## Batches -/

/-- What slots hold after two batches is what they hold after both at once. -/
theorem added_added (v : List (Option ItemStack)) (n k : Nat) :
    added m (added m v n) k = added m v (n + k) := by
  have hboth := pour_pour (spaceIn_topUp m) (topUp_topUp m) v n k
  rcases Nat.le_total n (room m v) with hfits | hexceeds
  · have hrest : k - (room m v - n) = n + k - room m v := by omega
    rw [added_of_le_room m hfits, added, hboth, room_topUp, hrest, added]
  · -- The first batch fills up all stacks that were there.
    have hfull : room m (pour (spaceIn m) (topUp m) v n) = 0 := by
      rw [room_topUp, Nat.sub_eq_zero_of_le hexceeds]
    have hrest : n - room m v + k = n + k - room m v := by omega
    have hfirst : added m v n =
      pour (vacancyIn m) (occupy m) (pour (spaceIn m) (topUp m) v n) (n - room m v) := rfl
    rw [hfirst, added_place m hfull, hrest, added, ← hboth, pour_topUp_of_room_eq_zero m hfull]

/-- How many further items of the material a slot can take. -/
def freeIn (slot : Option ItemStack) : Nat := spaceIn m slot + vacancyIn m slot

theorem capacity_eq_sum (v : List (Option ItemStack)) :
    capacity m v = (v.map (freeIn m)).sum := by
  have hsum : (v.map (freeIn m)).sum = (v.map (spaceIn m)).sum + (v.map (vacancyIn m)).sum :=
    List.sum_map_add
  rw [hsum, sum_vacancyIn, capacity, room]

theorem freeIn_topUp (slot : Option ItemStack) (n : Nat) :
    freeIn m (topUp m slot n) + min n (spaceIn m slot) = freeIn m slot := by
  rw [freeIn, spaceIn_topUp, vacancyIn_topUp, freeIn]
  omega

theorem freeIn_occupy (slot : Option ItemStack) (n : Nat) :
    freeIn m (occupy m slot n) + min n (vacancyIn m slot) = freeIn m slot := by
  cases slot with
  | some s => rw [occupy, vacancyIn, Nat.min_zero, Nat.add_zero]
  | none =>
    by_cases hn : n = 0
    · rw [occupy, if_pos hn, hn, Nat.zero_min, Nat.add_zero]
    · have hspace := spaceIn_occupy m hn
      obtain ⟨s, hs, -⟩ := exists_occupy m hn
      rw [hs] at hspace
      rw [hs, freeIn, freeIn, hspace, vacancyIn, vacancyIn, spaceIn]
      omega

/-- A batch takes up as much of the capacity as it has items, or all of it. -/
theorem capacity_added (v : List (Option ItemStack)) (n : Nat) :
    capacity m (added m v n) = capacity m v - n := by
  have hfilled := sum_map_pour_of_loss (freeIn_topUp m) v n
  have hplaced := sum_map_pour_of_loss (freeIn_occupy m) (pour (spaceIn m) (topUp m) v n)
    (n - room m v)
  rw [map_pour (vacancyIn_topUp m), sum_vacancyIn, ← capacity_eq_sum, ← capacity_eq_sum, ← added]
    at hplaced
  rw [← capacity_eq_sum, ← capacity_eq_sum, ← room] at hfilled
  have hboth : capacity m v = room m v + m.maxStackSize.toNat * v.count none := rfl
  omega

/-- Adding some items and then others of the same material is adding all of them at once: every slot
    holds the same in the end, as many items are given back, and the slots hold different stacks
    again. -/
theorem add_in_batches (i : Inventory) (a b : UInt8) (table : Stacks) (h : Tidy i.slots table)
    (hab : a.toNat + b.toNat ≤ 255) :
    let once := i.add m (a + b) table
    let first := i.add m a table
    let second := first.1.add m b first.2.2
    held second.1.slots second.2.2 = held once.1.slots once.2.2 ∧
      first.2.1.toNat + second.2.1.toNat = once.2.1.toNat ∧
      Tidy once.1.slots once.2.2 ∧ Tidy second.1.slots second.2.2 := by
  intro once first second
  have hsum : (a + b).toNat = a.toNat + b.toNat := by
    rw [UInt8.toNat_add]
    exact Nat.mod_eq_of_lt (by omega)
  obtain ⟨honce, hleft⟩ : held once.1.slots once.2.2 = added m (held i.slots table) (a + b).toNat ∧
    once.2.1.toNat = (a + b).toNat - capacity m (held i.slots table) := held_add m h
  obtain ⟨hfirst, hleft₁⟩ : held first.1.slots first.2.2 =
      added m (held i.slots table) a.toNat ∧
    first.2.1.toNat = a.toNat - capacity m (held i.slots table) := held_add m h
  have htidy : Tidy first.1.slots first.2.2 := h.rearranged (rearranges_add m h.present)
  obtain ⟨hsecond, hleft₂⟩ : held second.1.slots second.2.2 =
      added m (held first.1.slots first.2.2) b.toNat ∧
    second.2.1.toNat = b.toNat - capacity m (held first.1.slots first.2.2) := held_add m htidy
  rw [hsum] at honce hleft
  rw [hfirst, added_added] at hsecond
  rw [hfirst, capacity_added] at hleft₂
  exact ⟨hsecond.trans honce.symm, by omega, h.rearranged (rearranges_add m h.present),
    htidy.rearranged (rearranges_add m htidy.present)⟩

/-- Forty ender pearls and then thirty are added to a stack of five and two empty slots: the second
    batch fills up the second of the new stacks, and 27 of the seventy pearls are given back. -/
theorem add_in_batches_pearls :
    let table : Stacks := ⟨#[some ⟨.enderPearl, 5⟩] ++ Array.replicate 33 (some ⟨.dirt, 64⟩)⟩
    let i : Inventory := ⟨(List.range 34).map (fun k => some ⟨k⟩) ++ [none, none], rfl⟩
    let once := i.add .enderPearl (40 + 30) table
    Tidy i.slots table ∧ once.2.1 = 27 ∧
      let first := i.add .enderPearl 40 table
      let second := first.1.add .enderPearl 30 first.2.2
      held second.1.slots second.2.2 = held once.1.slots once.2.2 ∧
        first.2.1.toNat + second.2.1.toNat = once.2.1.toNat ∧
        Tidy once.1.slots once.2.2 ∧ Tidy second.1.slots second.2.2 := by
  intro table i once
  have htidy : Tidy i.slots table := by decide +kernel
  have hleft : once.2.1 = 27 := by decide +kernel
  exact ⟨htidy, hleft, add_in_batches .enderPearl i 40 30 table htidy (by decide)⟩

end Inventory

end Chainwalk
