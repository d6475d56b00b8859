import Chainwalk.Proofs.Inventory.Held
import Chainwalk.Proofs.Realm.Tables

/-!
# Adding items

Adding items to an inventory is exact. What slots hold afterwards is known slot by slot: the items
have been poured into the stacks of their material, and those that are left into the empty slots.
All of them are in the slots or given back, and none is given back that could have been put
somewhere.

* `Inventory.capacity`: how many further items slots can take;
* `Inventory.held_add`, `Inventory.getElem?_added_of_some`, `Inventory.getElem?_added_of_none`: what
  slots hold after adding;
* `Inventory.addExactly`: adding with numbers that have to fit, which they do;
* `Inventory.add_exact`: all of it together.
-/

namespace Chainwalk

namespace Inventory

variable (m : Material)

/-! ## What slots hold after adding -/

/-- How many further items of the material the stacks in slots can take. -/
def room (v : List (Option ItemStack)) : Nat := (v.map (spaceIn m)).sum

/-- How many further items of the material slots can take, in their stacks and in new ones. -/
def capacity (v : List (Option ItemStack)) : Nat := room m v + m.maxStackSize.toNat * v.count none

/-- What slots hold after adding items: as many as fit are in the stacks, and as many of the others
    as fit in empty slots. -/
def added (v : List (Option ItemStack)) (n : Nat) : List (Option ItemStack) :=
  pour (vacancyIn m) (occupy m) (pour (spaceIn m) (topUp m) v n) (n - room m v)

/-- No slot gets empty by topping up, or stops being so. -/
theorem vacancyIn_topUp (slot : Option ItemStack) (n : Nat) :
    vacancyIn m (topUp m slot n) = vacancyIn m slot := by
  cases slot with
  | none => rfl
  | some s =>
    rw [topUp]
    split <;> rfl

/-- Adding is pouring into the stacks and then into empty slots. -/
theorem held_add {i : Inventory} {n : UInt8} {table : Stacks} (h : Tidy i.slots table) :
    held (i.add m n table).1.slots (i.add m n table).2.2 = added m (held i.slots table) n.toNat ∧
      (i.add m n table).2.1.toNat = n.toNat - capacity m (held i.slots table) := by
  have hthere := (rearranges_fill m i.slots n table).present
  obtain ⟨hfilled, hrest⟩ := held_fill m h (n := n)
  obtain ⟨hplaced, hleft⟩ := held_place m (n := (fill m i.slots n table).1) fun r hr =>
    hthere r (h.present r hr)
  rw [hfilled, hrest] at hplaced hleft
  rw [map_pour (vacancyIn_topUp m), sum_vacancyIn, Nat.sub_sub] at hleft
  exact ⟨hplaced, hleft⟩

variable {v : List (Option ItemStack)} {k : Nat} {s : ItemStack}

/-- A stack keeps its material and gets as many items as it can. -/
theorem exists_topUp (s : ItemStack) (n : Nat) :
    ∃ s', topUp m (some s) n = some s' ∧ s'.material = s.material ∧
      s'.count.toNat = s.count.toNat + min n (spaceIn m (some s)) := by
  rw [topUp, spaceIn]
  split
  · refine ⟨_, rfl, rfl, ?_⟩
    have hmax := s.maxSize.toNat_lt
    have hcount := s.count.toNat_lt
    have hspace := s.toNat_space
    rw [UInt8.toNat_ofNat']
    omega
  · exact ⟨s, rfl, rfl, by rw [Nat.min_zero, Nat.add_zero]⟩

/-- A new stack has as many items as it can. -/
theorem exists_occupy {n : Nat} (hn : n ≠ 0) :
    ∃ s, occupy m none n = some s ∧ s.material = m ∧
      s.count.toNat = min n m.maxStackSize.toNat := by
  refine ⟨_, if_neg hn, rfl, ?_⟩
  have hmax := m.maxStackSize.toNat_lt
  rw [UInt8.toNat_ofNat']
  omega

variable {v : List (Option ItemStack)} {k : Nat} {s : ItemStack}

/-- What becomes of a stack: to it come the items that do not fit into those before it. -/
theorem getElem?_added_of_some (hk : v[k]? = some (some s)) (n : Nat) :
    (added m v n)[k]? = some (topUp m (some s) (n - room m (v.take k))) := by
  obtain ⟨s', htopUp, -⟩ := exists_topUp m s (n - room m (v.take k))
  rw [added, getElem?_pour, getElem?_pour, hk, Option.map_some, Option.map_some, ← room, htopUp,
    occupy]

/-- What becomes of an empty slot: to it come the items that fit neither into the stacks nor into
    the empty slots before it. -/
theorem getElem?_added_of_none (hk : v[k]? = some none) (n : Nat) :
    (added m v n)[k]? = some (occupy m none
      (n - (room m v + m.maxStackSize.toNat * (v.take k).count none))) := by
  rw [added, getElem?_pour, getElem?_pour, hk, Option.map_some, Option.map_some, topUp,
    List.map_take, map_pour (vacancyIn_topUp m), ← List.map_take, sum_vacancyIn, Nat.sub_sub]

/-! ## No item is lost -/

theorem itemsIn_topUp (slot : Option ItemStack) (n : Nat) :
    itemsIn m (topUp m slot n) = itemsIn m slot + min n (spaceIn m slot) := by
  cases slot with
  | none => rw [topUp, spaceIn, Nat.min_zero, Nat.add_zero]
  | some s =>
    obtain ⟨s', htopUp, hmaterial, hcount⟩ := exists_topUp m s n
    rw [htopUp, itemsIn, itemsIn, hmaterial, hcount]
    split
    · rfl
    · rename_i hne
      rw [spaceIn, if_neg hne, Nat.min_zero]

theorem itemsIn_occupy (slot : Option ItemStack) (n : Nat) :
    itemsIn m (occupy m slot n) = itemsIn m slot + min n (vacancyIn m slot) := by
  cases slot with
  | some s => rw [occupy, vacancyIn, Nat.min_zero, Nat.add_zero]
  | none =>
    rw [vacancyIn, itemsIn, Nat.zero_add]
    by_cases hn : n = 0
    · rw [occupy, if_pos hn, itemsIn, hn, Nat.zero_min]
    · obtain ⟨s, hoccupy, hmaterial, hcount⟩ := exists_occupy m hn
      rw [hoccupy, itemsIn, if_pos hmaterial, hcount]

/-- There are as many more items as there is capacity for. -/
theorem items_added (v : List (Option ItemStack)) (n : Nat) :
    items m (added m v n) = items m v + min n (capacity m v) := by
  have hfilled := sum_map_pour_of_gain (itemsIn_topUp m) v n
  have hplaced := sum_map_pour_of_gain (itemsIn_occupy m) (pour (spaceIn m) (topUp m) v n)
    (n - room m v)
  rw [map_pour (vacancyIn_topUp m), sum_vacancyIn, hfilled, ← items, ← items, ← added, ← room]
    at hplaced
  rw [hplaced, capacity]
  omega

/-- The items of other materials are as many as before. -/
theorem items_added_of_ne {m' : Material} (hne : m' ≠ m) (v : List (Option ItemStack)) (n : Nat) :
    items m' (added m v n) = items m' v := by
  have htopUp (slot : Option ItemStack) (n : Nat) :
      itemsIn m' (topUp m slot n) = itemsIn m' slot := by
    cases slot with
    | none => rfl
    | some s =>
      obtain ⟨s', htopUp, hmaterial, hcount⟩ := exists_topUp m s n
      rw [htopUp, itemsIn, itemsIn, hmaterial, hcount]
      split
      · rename_i hm
        rw [spaceIn, if_neg (hm ▸ hne), Nat.min_zero, Nat.add_zero]
      · rfl
  have hoccupy (slot : Option ItemStack) (n : Nat) :
      itemsIn m' (occupy m slot n) = itemsIn m' slot := by
    cases slot with
    | some s => rfl
    | none =>
      by_cases hn : n = 0
      · rw [occupy, if_pos hn]
      · obtain ⟨s, hoccupy, hmaterial, -⟩ := exists_occupy m hn
        rw [hoccupy, itemsIn, itemsIn, hmaterial, if_neg hne.symm]
  rw [items, added, map_pour hoccupy, map_pour htopUp, items]

/-! ## Bounds and new stacks -/

/-- No stack gets more items than there may be. -/
theorem inBounds_added (hv : ∀ s, some s ∈ v → s.InBounds) (n : Nat) :
    ∀ s, some s ∈ added m v n → s.InBounds := by
  have htopUp (slot : Option ItemStack) (n : Nat) (h : ∀ s ∈ slot, s.InBounds) :
      ∀ s ∈ topUp m slot n, s.InBounds := by
    intro s hs
    cases slot with
    | none => cases hs
    | some a =>
      obtain ⟨s', htopUp, hmaterial, hcount⟩ := exists_topUp m a n
      obtain rfl : s' = s := Option.some.inj (htopUp.symm.trans hs)
      have hmax := UInt8.le_iff_toNat_le.1 (h a rfl)
      have hspace := a.toNat_space
      rw [ItemStack.InBounds, UInt8.le_iff_toNat_le, hcount, ItemStack.maxSize, hmaterial,
        ← ItemStack.maxSize, spaceIn]
      split <;> omega
  have hoccupy (slot : Option ItemStack) (n : Nat) (h : ∀ s ∈ slot, s.InBounds) :
      ∀ s ∈ occupy m slot n, s.InBounds := by
    intro s hs
    cases slot with
    | some a => exact h s hs
    | none =>
      obtain ⟨hn, -⟩ := Option.ite_none_left_eq_some.1 hs
      obtain ⟨s', hoccupy, hmaterial, hcount⟩ := exists_occupy m hn
      obtain rfl : s' = s := Option.some.inj (hoccupy.symm.trans hs)
      rw [ItemStack.InBounds, UInt8.le_iff_toNat_le, hcount, ItemStack.maxSize, hmaterial]
      exact Nat.min_le_right _ _
  intro s hs
  refine forall_mem_pour (P := fun slot => ∀ s ∈ slot, s.InBounds) hoccupy
    (forall_mem_pour htopUp ?_ n) _ _ hs s rfl
  intro slot hslot s hs
  exact hv s (hs ▸ hslot)

/-- If more items come than the stacks can take, then every stack of the material gets full. -/
theorem exists_isFull_added {n : Nat} (hn : room m v ≤ n) (hk : v[k]? = some (some s))
    (hs : s.material = m) : ∃ s', (added m v n)[k]? = some (some s') ∧ s'.isFull := by
  obtain ⟨s', htopUp, hmaterial, hcount⟩ := exists_topUp m s (n - room m (v.take k))
  refine ⟨s', by rw [getElem?_added_of_some m hk, htopUp], ?_⟩
  have hroom := sum_map_take_succ (spaceIn m) hk
  have hle := sum_map_take_le (spaceIn m) v (k + 1)
  have hspace := s.toNat_space
  rw [hroom, ← room, ← room, spaceIn, if_pos hs] at hle
  rw [spaceIn, if_pos hs] at hcount
  rw [ItemStack.isFull, decide_eq_true_iff, UInt8.le_iff_toNat_le, ItemStack.maxSize, hmaterial,
    ← ItemStack.maxSize, hcount]
  omega

/-- A new stack is of the material added, and comes only if there are more items than the stacks
    and the empty slots before it can take. -/
theorem lt_of_getElem?_added {n : Nat} (hk : v[k]? = some none)
    (hs : (added m v n)[k]? = some (some s)) :
    s.material = m ∧ room m v + m.maxStackSize.toNat * (v.take k).count none < n := by
  rw [getElem?_added_of_none m hk, Option.some_inj] at hs
  obtain ⟨hn, -⟩ := Option.ite_none_left_eq_some.1 hs
  obtain ⟨s', hoccupy, hmaterial, -⟩ := exists_occupy m hn
  obtain rfl : s' = s := Option.some.inj (hoccupy.symm.trans hs)
  exact ⟨hmaterial, by omega⟩

/-- New stacks take the first of the empty slots. -/
theorem exists_new_of_lt {n j : Nat} (hj : v[j]? = some none) (hjk : j ≤ k)
    (hn : room m v + m.maxStackSize.toNat * (v.take k).count none < n) :
    ∃ s', (added m v n)[j]? = some (some s') := by
  have hfewer : (v.take j).count none ≤ (v.take k).count none :=
    (List.take_sublist_take_left hjk).count_le none
  have hless := Nat.mul_le_mul_left m.maxStackSize.toNat hfewer
  obtain ⟨s', hoccupy, -⟩ := exists_occupy m
    (n := n - (room m v + m.maxStackSize.toNat * (v.take j).count none)) (by omega)
  exact ⟨s', by rw [getElem?_added_of_none m hj, hoccupy]⟩

/-- Placing leaves slots alone that have a stack. -/
theorem getElem?_place_of_some {slots : List Slot} {n : UInt8} {table : Stacks} {r : Ref .stack}
    (hr : slots[k]? = some (some r)) : (place m slots n table).1[k]? = some (some r) := by
  induction slots generalizing n table k with
  | nil => cases hr
  | cons slot rest ih =>
    rcases slot with _ | q
    · rw [place]
      split
      · exact hr
      · exact getElem?_cons_imp (fun heq => by cases heq) (fun _ => ih) hr
    · exact getElem?_cons_imp id (fun _ => ih) hr

end Inventory

/-! ## Numbers fit -/

/-- The sum of two numbers of 8 bits, if it is one. -/
def exactSum (a b : UInt8) : Option UInt8 :=
  if a.toNat + b.toNat < UInt8.size then some (a + b) else none

/-- The difference of two numbers of 8 bits, if it is one. -/
def exactDifference (a b : UInt8) : Option UInt8 := if b ≤ a then some (a - b) else none

/-- The stack with as many of `n` further items as fit, and how many do not, if all numbers fit. -/
def ItemStack.addExactly (s : ItemStack) (n : UInt8) : Option (ItemStack × UInt8) := do
  let count ← exactSum s.count (min n s.space)
  let excess ← exactDifference n (min n s.space)
  return ({ s with count }, excess)

theorem exactDifference_min (n k : UInt8) : exactDifference n (min n k) = some (n - min n k) :=
  if_pos (UInt8.le_iff_toNat_le.2 (by rw [toNat_min]; exact Nat.min_le_left _ _))

theorem ItemStack.addExactly_eq (s : ItemStack) (n : UInt8) :
    s.addExactly n = some (s.add n, s.excess n) := by
  have hsum : exactSum s.count (min n s.space) = some (s.count + min n s.space) := by
    refine if_pos ?_
    have hmax := s.maxSize.toNat_lt
    have hcount := s.count.toNat_lt
    rw [toNat_min, toNat_space, UInt8.size]
    omega
  rw [addExactly, hsum, exactDifference_min]
  rfl

namespace Inventory

variable (m : Material)

/-- Filling up stacks, if all numbers fit. -/
def fillExactly : List Slot → UInt8 → Stacks → Option (UInt8 × Stacks)
  | [], n, table => some (n, table)
  | none :: rest, n, table => fillExactly rest n table
  | some r :: rest, n, table =>
    match table.get? r with
    | some s =>
      if s.material = m && !s.isFull && n != 0 then
        (s.addExactly n).bind fun after =>
          fillExactly rest after.2 (table.modify r fun _ => after.1)
      else fillExactly rest n table
    | none => fillExactly rest n table

/-- Placing new stacks, if all numbers fit. -/
def placeExactly : List Slot → UInt8 → Stacks → Option (List Slot × UInt8 × Stacks)
  | [], n, table => some ([], n, table)
  | some r :: rest, n, table => do
    let (slots, left, table) ← placeExactly rest n table
    return (some r :: slots, left, table)
  | none :: rest, n, table =>
    if n = 0 then some (none :: rest, n, table)
    else do
      let placed := min n m.maxStackSize
      let (slots, left, after) ←
        placeExactly rest (← exactDifference n placed) (table.insert (.make m placed))
      return (some table.next :: slots, left, after)

/-- Adding items, if all numbers fit. Otherwise only minima are taken, and the space of a stack,
    which is never less than nothing. -/
def addExactly (i : Inventory) (n : UInt8) (table : Stacks) :
    Option (List Slot × UInt8 × Stacks) :=
  (fillExactly m i.slots n table).bind fun filled => placeExactly m i.slots filled.1 filled.2

theorem fillExactly_eq (slots : List Slot) (n : UInt8) (table : Stacks) :
    fillExactly m slots n table = some (fill m slots n table) := by
  induction slots generalizing n table with
  | nil => rfl
  | cons slot rest ih =>
    rcases slot with _ | r
    · exact ih n table
    · rw [fillExactly, fill]
      cases hs : table.get? r with
      | none => exact ih n table
      | some s =>
        have hadd : (table.modify r fun _ => s.add n) = table.modify r (·.add n) :=
          Table.modify_congr hs rfl
        dsimp only
        split
        · rw [s.addExactly_eq, Option.bind_some, ih, hadd]
        · exact ih n table

theorem placeExactly_eq (slots : List Slot) (n : UInt8) (table : Stacks) :
    placeExactly m slots n table = some (place m slots n table) := by
  induction slots generalizing n table with
  | nil => rfl
  | cons slot rest ih =>
    rcases slot with _ | r
    · rw [placeExactly, place]
      split
      · rfl
      · simp only [exactDifference_min, Option.bind_eq_bind, Option.bind_some, ih]
        rfl
    · rw [placeExactly, ih]
      rfl

theorem addExactly_eq (i : Inventory) (n : UInt8) (table : Stacks) :
    i.addExactly m n table =
      some ((i.add m n table).1.slots, (i.add m n table).2.1, (i.add m n table).2.2) := by
  rw [addExactly, fillExactly_eq, Option.bind_some, placeExactly_eq]
  rfl

/-! ## Adding -/

/-- Adding to an inventory whose slots hold different stacks is exact. Given back is what exceeds
    the capacity, and what is not given back is counted afterwards; other materials count as before.
    No slot loses its stack, no stack its material or any items, and none gets more items than there
    may be. There are new stacks only if all those of the material are full, and they take the first
    of the empty slots. The slots hold different stacks again, and no number was too large or too
    small for 8 bits. -/
theorem add_exact (i : Inventory) (n : UInt8) (table : Stacks) (h : Tidy i.slots table) :
    let i' := (i.add m n table).1
    let left := (i.add m n table).2.1
    let table' := (i.add m n table).2.2
    let before := held i.slots table
    let after := held i'.slots table'
    left.toNat = n.toNat - capacity m before ∧
      (i'.count m table').toNat + left.toNat = (i.count m table).toNat + n.toNat ∧
      (∀ m', m' ≠ m → i'.count m' table' = i.count m' table) ∧
      (∀ (k : Nat) s, before[k]? = some (some s) → i'.slots[k]? = i.slots[k]? ∧
        ∃ s', after[k]? = some (some s') ∧ s'.material = s.material ∧ s.count ≤ s'.count) ∧
      ((∀ s, some s ∈ before → s.InBounds) → ∀ s, some s ∈ after → s.InBounds) ∧
      (∀ (k : Nat) s, before[k]? = some none → after[k]? = some (some s) → s.material = m ∧
        (∀ (j : Nat) a, before[j]? = some (some a) → a.material = m →
          ∃ a', after[j]? = some (some a') ∧ a'.isFull) ∧
        ∀ j < k, before[j]? = some none → ∃ s', after[j]? = some (some s')) ∧
      Tidy i'.slots table' ∧ i.addExactly m n table = some (i'.slots, left, table') := by
  intro i' left table' before after
  obtain ⟨hafter, hleft⟩ : after = added m before n.toNat ∧
    left.toNat = n.toNat - capacity m before := held_add m h
  refine ⟨hleft, ?counted, fun m' hne => ?others, fun k s hk => ⟨?slot, ?stack⟩, ?bounds,
    fun k s hk hs => ?new, h.rearranged (rearranges_add m h.present), addExactly_eq m i n table⟩
  case counted =>
    rw [toNat_count, toNat_count, hleft]
    change items m after + _ = items m before + _
    rw [hafter, items_added]
    omega
  case others =>
    rw [← UInt32.toNat_inj, toNat_count, toNat_count]
    change items m' after = items m' before
    rw [hafter, items_added_of_ne m hne]
  case slot =>
    obtain ⟨r, hr, -⟩ := getElem?_held_eq_some_some_iff.1 hk
    exact (getElem?_place_of_some m hr).trans hr.symm
  case stack =>
    obtain ⟨s', htopUp, hmaterial, hcount⟩ := exists_topUp m s (n.toNat - room m (before.take k))
    refine ⟨s', by rw [hafter, getElem?_added_of_some m hk, htopUp], hmaterial, ?_⟩
    rw [UInt8.le_iff_toNat_le, hcount]
    exact Nat.le_add_right _ _
  case bounds =>
    intro hbefore
    rw [hafter]
    exact inBounds_added m hbefore n.toNat
  case new =>
    rw [hafter] at hs ⊢
    obtain ⟨hmaterial, hlt⟩ := lt_of_getElem?_added m hk hs
    exact ⟨hmaterial, fun j a ha hm => exists_isFull_added m (by omega) ha hm,
      fun j hjk hj => exists_new_of_lt m hj hjk.le hlt⟩

/-- A hundred stones are added to a stack of 60 and an empty slot, where 68 of them fit. -/
theorem add_exact_nearlyFull :
    let table : Stacks := ⟨#[some ⟨.stone, 60⟩] ++ Array.replicate 34 (some ⟨.dirt, 64⟩)⟩
    let i : Inventory := ⟨(List.range 35).map (fun k => some ⟨k⟩) ++ [none], rfl⟩
    Tidy i.slots table ∧ (i.add .stone 100 table).2.1.toNat = 32 ∧
      ((i.add .stone 100 table).1.count .stone (i.add .stone 100 table).2.2).toNat = 128 := by
  intro table i
  have htidy : Tidy i.slots table := by decide +kernel
  have hcapacity : capacity .stone (held i.slots table) = 68 := by decide +kernel
  have hcount : (i.count .stone table).toNat = 60 := by decide +kernel
  obtain ⟨hleft, hcounted, -⟩ := add_exact .stone i 100 table htidy
  rw [hcapacity] at hleft
  change _ = 100 - 68 at hleft
  rw [hleft, hcount] at hcounted
  change _ + _ = 60 + 100 at hcounted
  exact ⟨htidy, hleft, by omega⟩

end Inventory

end Chainwalk
