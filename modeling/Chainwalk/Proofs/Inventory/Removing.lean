import Chainwalk.Proofs.Inventory.Held

/-!
# Removing items

Removing items from an inventory is exact. Going along the slots, every stack of the material gives
what is still to be removed when it is reached, as far as it has it: those that have no more than
that leave their slots, the next one keeps the rest, and those after it are not touched.

* `Inventory.held_remove`, `Inventory.getElem?_drained`: what slots hold after removing;
* `Inventory.exists_cut`: the slot at which nothing more is to be removed;
* `Inventory.remove_exact`: all of it together.
-/

namespace Chainwalk

namespace Inventory

variable (m : Material)

/-! ## What slots hold after removing -/

/-- What slots hold after removing items. -/
def drained (v : List (Option ItemStack)) (n : Nat) : List (Option ItemStack) :=
  pour (itemsIn m) (lessen m) v n

/-- Removing is pouring into the items of the stacks, and gives as many as there are. -/
theorem held_remove {i : Inventory} {n : UInt32} {table : Stacks} (h : Tidy i.slots table) :
    held (i.remove m n table).1.slots (i.remove m n table).2.2 =
        drained m (held i.slots table) n.toNat ∧
      (i.remove m n table).2.1.toNat = min n.toNat (items m (held i.slots table)) := by
  obtain ⟨hheld, -, hleft⟩ := held_drain m (n := n) h
  refine ⟨hheld, ?_⟩
  have hle : (drain m i.slots n table).2.1 ≤ n :=
    UInt32.le_iff_toNat_le.2 (by rw [hleft]; exact Nat.sub_le _ _)
  rw [remove, UInt32.toNat_sub_of_le _ _ hle, hleft]
  omega

variable {v : List (Option ItemStack)} {slot : Option ItemStack} {k : Nat} {s : ItemStack}

/-- To each slot comes what those before it do not hold of what is to be removed. -/
theorem getElem?_drained (hk : v[k]? = some slot) (n : Nat) :
    (drained m v n)[k]? = some (lessen m slot (n - items m (v.take k))) := by
  rw [drained, getElem?_pour, hk, Option.map_some, items]

variable {m}

/-- A slot is left alone that has no stack of the material. -/
theorem lessen_of_ne (hslot : ∀ s, slot = some s → s.material ≠ m) (n : Nat) :
    lessen m slot n = slot := by
  cases slot with
  | none => rfl
  | some s => exact lessen_eq_self m fun h => hslot s rfl h.1

/-- A slot gets empty if there is no more in it than is to be removed. -/
theorem lessen_eq_none {n : Nat} (hs : s.material = m) (hn : 0 < n) (hle : s.count.toNat ≤ n) :
    lessen m (some s) n = none := by
  rw [lessen, if_pos ⟨hs, hn.ne'⟩, if_pos hle]

/-- A stack that has more than is to be removed keeps the rest. -/
theorem exists_lessen {n : Nat} (hs : s.material = m) (hlt : n < s.count.toNat) :
    ∃ s', lessen m (some s) n = some s' ∧ s'.material = m ∧
      s'.count.toNat + n = s.count.toNat := by
  by_cases hn : n = 0
  · exact ⟨s, lessen_eq_self m (by simp [hn]), hs, by omega⟩
  · refine ⟨{ s with count := .ofNat (s.count.toNat - n) }, ?_, hs, ?_⟩
    · rw [lessen, if_pos ⟨hs, hn⟩, if_neg (not_le.2 hlt)]
    have hcount := s.count.toNat_lt
    rw [UInt8.toNat_ofNat']
    omega

/-- Stacks keep their material, and none comes to a slot. -/
theorem exists_of_lessen {n : Nat} (h : lessen m slot n = some s) :
    ∃ a, slot = some a ∧ a.material = s.material := by
  cases slot with
  | none => cases h
  | some a =>
    refine ⟨a, rfl, ?_⟩
    rw [lessen] at h
    split at h
    · obtain ⟨-, h⟩ := Option.ite_none_left_eq_some.1 h
      obtain rfl := Option.some.inj h
      rfl
    · obtain rfl := Option.some.inj h
      rfl

variable (m)

/-! ## No item is lost -/

theorem itemsIn_lessen (slot : Option ItemStack) (n : Nat) :
    itemsIn m (lessen m slot n) + min n (itemsIn m slot) = itemsIn m slot := by
  cases slot with
  | none => rw [lessen, itemsIn, Nat.min_zero]
  | some s =>
    by_cases hs : s.material = m
    · by_cases hlt : n < s.count.toNat
      · obtain ⟨s', hlessen, hmaterial, hcount⟩ := exists_lessen hs hlt
        rw [hlessen, itemsIn, itemsIn, if_pos hmaterial, if_pos hs]
        omega
      · by_cases hn : n = 0
        · rw [lessen_eq_self m (by simp [hn]), hn, Nat.zero_min, Nat.add_zero]
        · rw [lessen_eq_none hs (by omega) (by omega), itemsIn, itemsIn, if_pos hs]
          omega
    · rw [lessen_eq_self m fun h => hs h.1, itemsIn, if_neg hs, Nat.min_zero]

/-- There are as many fewer items as could be removed. -/
theorem items_drained (v : List (Option ItemStack)) (n : Nat) :
    items m (drained m v n) + min n (items m v) = items m v :=
  sum_map_pour_of_loss (itemsIn_lessen m) v n

/-! ## In the order of the slots -/

theorem items_take_succ (hk : v[k]? = some (some s)) (hs : s.material = m) :
    items m (v.take (k + 1)) = items m (v.take k) + s.count.toNat := by
  rw [items, sum_map_take_succ (itemsIn m) hk, ← items, itemsIn, if_pos hs]

theorem items_take_mono (v : List (Option ItemStack)) {j k : Nat} (hjk : j ≤ k) :
    items m (v.take j) ≤ items m (v.take k) :=
  ((List.take_sublist_take_left hjk).map _).sum_le_sum fun _ _ => Nat.zero_le _

/-- There is a slot up to which all stacks of the material are emptied, and after which none is
    touched: the first one with which enough has been found. -/
theorem exists_cut (v : List (Option ItemStack)) (n : Nat) :
    ∃ j, ∀ (k : Nat) s, v[k]? = some (some s) → s.material = m →
      (k < j → (drained m v n)[k]? = some none) ∧ (j < k → (drained m v n)[k]? = v[k]?) := by
  have hex : ∃ j, n ≤ items m (v.take (j + 1)) ∨ v.length ≤ j := ⟨v.length, .inr le_rfl⟩
  refine ⟨Nat.find hex, fun k s hk hs => ⟨fun hlt => ?_, fun hlt => ?_⟩⟩
  · obtain ⟨hfew, -⟩ := not_or.1 (Nat.find_min hex hlt)
    rw [items_take_succ m hk hs] at hfew
    rw [getElem?_drained m hk, lessen_eq_none hs (by omega) (by omega)]
  · have hlength := (List.getElem?_eq_some_iff.1 hk).1
    rcases Nat.find_spec hex with henough | hend
    · have hle := henough.trans (items_take_mono m v hlt)
      rw [getElem?_drained m hk, Nat.sub_eq_zero_of_le hle, lessen_eq_self m (by simp), hk]
    · omega

/-- If not enough could be found, then no stack of the material is left. -/
theorem material_ne_of_mem_drained {n : Nat} (hn : items m v < n) (hs : some s ∈ drained m v n) :
    s.material ≠ m := by
  intro hm
  obtain ⟨k, hk⟩ := List.mem_iff_getElem?.1 hs
  have hslot : ∃ slot, v[k]? = some slot := by
    rw [drained, getElem?_pour] at hk
    exact (Option.map_eq_some_iff.1 hk).imp fun _ => And.left
  obtain ⟨slot, hslot⟩ := hslot
  rw [getElem?_drained m hslot, Option.some_inj] at hk
  obtain ⟨a, rfl, ha⟩ := exists_of_lessen hk
  have hle := sum_map_take_le (itemsIn m) v (k + 1)
  rw [← items, ← items, items_take_succ m hslot (ha.trans hm)] at hle
  rw [lessen_eq_none (ha.trans hm) (by omega) (by omega)] at hk
  cases hk

/-! ## Slots and stacks -/

/-- No stack comes to a slot. -/
theorem getElem?_of_getElem?_drain {slots : List Slot} {n : UInt32} {table : Stacks}
    {r : Ref .stack} (hr : (drain m slots n table).1[k]? = some (some r)) :
    slots[k]? = some (some r) := by
  induction slots generalizing n table k with
  | nil => exact hr
  | cons slot rest ih =>
    rcases slot with _ | q
    · exact getElem?_cons_imp id (fun _ => ih) hr
    · rw [drain] at hr
      split at hr
      · split at hr
        · exact getElem?_cons_imp (fun heq => (Option.ite_none_left_eq_some.1 heq).2)
            (fun _ => ih) hr
        · exact getElem?_cons_imp id (fun _ => ih) hr
      · exact getElem?_cons_imp id (fun _ => ih) hr

variable {i : Inventory} {n : UInt32} {table : Stacks}

theorem tidy_remove (h : Tidy i.slots table) :
    Tidy (i.remove m n table).1.slots (i.remove m n table).2.2 :=
  h.rearranged (rearranges_drain m h.present)

/-- A slot that holds a stack afterwards has the one that it had. -/
theorem getElem?_remove_of_some
    (hk : (held (i.remove m n table).1.slots (i.remove m n table).2.2)[k]? = some (some s)) :
    (i.remove m n table).1.slots[k]? = i.slots[k]? := by
  obtain ⟨r, hr, -⟩ := getElem?_held_eq_some_some_iff.1 hk
  exact hr.trans (getElem?_of_getElem?_drain m hr).symm

/-- A slot that holds what it held has the stack that it had. -/
theorem getElem?_remove_of_eq (h : Tidy i.slots table)
    (hk : (held (i.remove m n table).1.slots (i.remove m n table).2.2)[k]? =
      (held i.slots table)[k]?) :
    (i.remove m n table).1.slots[k]? = i.slots[k]? := by
  rcases hslot : (i.remove m n table).1.slots[k]? with _ | _ | r
  · rw [List.getElem?_eq_none_iff, Inventory.length_slots, ← i.length_slots,
      ← List.getElem?_eq_none_iff] at hslot
    exact hslot.symm
  · rw [(getElem?_held_eq_some_none_iff (tidy_remove m h)).2 hslot] at hk
    exact ((getElem?_held_eq_some_none_iff h).1 hk.symm).symm
  · exact (getElem?_of_getElem?_drain m hslot).symm

/-- What becomes of a stack of the material, whether it leaves its slot or not. -/
theorem exists_get?_remove (h : Tidy i.slots table) {r : Ref .stack}
    (hk : i.slots[k]? = some (some r)) (hr : table.get? r = some s) (hs : s.material = m) :
    ∃ s', (i.remove m n table).2.2.get? r = some s' ∧ s'.material = m ∧
      s'.count.toNat = s.count.toNat - (n.toNat - items m ((held i.slots table).take k)) := by
  obtain ⟨-, hstacks, -⟩ := held_drain m (n := n) h
  have hslot := congrArg (·[k]?) hstacks
  simp only [getElem?_pour, getElem?_held_eq_some_some_iff.2 ⟨r, hk, hr⟩, Option.map_some,
    lower, if_pos hs] at hslot
  obtain ⟨q, hq, hget⟩ := getElem?_held_eq_some_some_iff.1 hslot
  obtain rfl : r = q := by simpa using hk.symm.trans hq
  refine ⟨_, hget, hs, ?_⟩
  have hcount := s.count.toNat_lt
  rw [UInt8.toNat_ofNat', items]
  omega

/-! ## Removing -/

/-- Removing from an inventory whose slots hold different stacks is exact. As many items are removed
    as are asked for, or as there are, and so many fewer are counted afterwards. Slots without a
    stack of the material are not touched. Those with one are emptied up to some slot, and not
    touched after it. A stack that is reached while items remain to be removed has so many fewer
    afterwards, and leaves its slot exactly if it then has none. If not enough could be removed, no
    stack of the material is left. The slots hold different stacks again. -/
theorem remove_exact (i : Inventory) (n : UInt32) (table : Stacks) (h : Tidy i.slots table) :
    let i' := (i.remove m n table).1
    let removed := (i.remove m n table).2.1
    let table' := (i.remove m n table).2.2
    let before := held i.slots table
    let after := held i'.slots table'
    let remaining (k : Nat) := n.toNat - items m (before.take k)
    removed.toNat = min n.toNat (i.count m table).toNat ∧
      (i'.count m table').toNat + removed.toNat = (i.count m table).toNat ∧
      (∀ k : Nat, (∀ s, before[k]? = some (some s) → s.material ≠ m) →
        i'.slots[k]? = i.slots[k]? ∧ after[k]? = before[k]?) ∧
      (∃ j, ∀ (k : Nat) s, before[k]? = some (some s) → s.material = m →
        (k < j → i'.slots[k]? = some none) ∧
        (j < k → i'.slots[k]? = i.slots[k]? ∧ after[k]? = before[k]?)) ∧
      (∀ (k : Nat) r s, i.slots[k]? = some (some r) → table.get? r = some s → s.material = m →
        0 < remaining k → ∃ s', table'.get? r = some s' ∧ s'.material = m ∧
          s'.count.toNat = s.count.toNat - remaining k ∧
          i'.slots[k]? = some (if s'.count = 0 then none else some r)) ∧
      (removed < n → ∀ s, some s ∈ after → s.material ≠ m) ∧ Tidy i'.slots table' := by
  intro i' removed table' before after remaining
  obtain ⟨hafter, hremoved⟩ : after = drained m before n.toNat ∧
    removed.toNat = min n.toNat (items m before) := held_remove m h
  have htidy : Tidy i'.slots table' := tidy_remove m h
  have hsame (k : Nat) (hk : after[k]? = before[k]?) :
      i'.slots[k]? = i.slots[k]? ∧ after[k]? = before[k]? := ⟨getElem?_remove_of_eq m h hk, hk⟩
  have hempty (k : Nat) (hk : (drained m before n.toNat)[k]? = some none) :
      i'.slots[k]? = some none :=
    (getElem?_held_eq_some_none_iff htidy).1 (by rw [← hk, ← hafter])
  refine ⟨by rw [hremoved, toNat_count], ?counted, fun k hk => hsame k ?others, ?cut,
    fun k r s hk hr hs hremains => ?reached, fun hlt s hs => ?exhausted, htidy⟩
  case counted =>
    have hitems := items_drained m before n.toNat
    rw [toNat_count, toNat_count, hremoved]
    change items m after + _ = items m before
    rwa [hafter]
  case others =>
    rw [hafter]
    rcases hslot : before[k]? with _ | slot
    · rw [drained, getElem?_pour, hslot, Option.map_none]
    · rw [getElem?_drained m hslot, lessen_of_ne fun s hs => hk s (hs ▸ hslot)]
  case cut =>
    obtain ⟨j, hj⟩ := exists_cut m before n.toNat
    refine ⟨j, fun k s hk hs => ⟨fun hkj => hempty k ((hj k s hk hs).1 hkj), fun hjk => ?_⟩⟩
    exact hsame k (hafter ▸ (hj k s hk hs).2 hjk)
  case reached =>
    obtain ⟨s', hs', hmaterial, hcount⟩ := exists_get?_remove m (n := n) h hk hr hs
    refine ⟨s', hs', hmaterial, hcount, ?_⟩
    have hslot := getElem?_drained m (getElem?_held_eq_some_some_iff.2 ⟨r, hk, hr⟩) n.toNat
    have hzero : s'.count = 0 ↔ s.count.toNat ≤ remaining k := by
      rw [← UInt8.toNat_inj, hcount, UInt8.toNat_zero]
      exact Nat.sub_eq_zero_iff_le
    split
    · rename_i hgone
      rw [lessen_eq_none hs hremains (hzero.1 hgone)] at hslot
      exact hempty k hslot
    · rename_i hstays
      obtain ⟨_, hlessen, -⟩ := exists_lessen hs (not_le.1 (mt hzero.2 hstays))
      rw [hlessen] at hslot
      exact (getElem?_remove_of_some m (hafter ▸ hslot)).trans hk
  case exhausted =>
    rw [hafter] at hs
    rw [UInt32.lt_iff_toNat_lt, hremoved] at hlt
    exact material_ne_of_mem_drained m (by omega) hs

/-- Of five stacks of 64 stones, 300 stones are removed, and 20 are left in the last of them. -/
theorem remove_exact_quarry :
    let table : Stacks := ⟨#[some ⟨.dirt, 7⟩] ++ Array.replicate 5 (some ⟨.stone, 64⟩)⟩
    let i : Inventory := ⟨(List.range 6).map (fun k => some ⟨k⟩) ++ List.replicate 30 none, rfl⟩
    let i' := (i.remove .stone 300 table).1
    let table' := (i.remove .stone 300 table).2.2
    Tidy i.slots table ∧ (i.remove .stone 300 table).2.1.toNat = 300 ∧
      (i'.count .stone table').toNat = 20 ∧
      ∃ s, table'.get? ⟨5⟩ = some s ∧ s.count.toNat = 20 ∧ i'.slots[5]? = some (some ⟨5⟩) := by
  intro table i i' table'
  have htidy : Tidy i.slots table := by decide +kernel
  have hcount : (i.count .stone table).toNat = 320 := by decide +kernel
  have hremaining : UInt32.toNat 300 - items .stone ((held i.slots table).take 5) = 44 := by
    decide +kernel
  obtain ⟨hremoved, hcounted, -, -, hreached, -⟩ := remove_exact .stone i 300 table htidy
  specialize hreached 5 ⟨5⟩ ⟨.stone, 64⟩ rfl rfl rfl
  beta_reduce at hreached
  rw [hcount] at hremoved hcounted
  rw [hremaining] at hreached
  obtain ⟨s, hs, -, hless, hslot⟩ := hreached (by decide)
  have htwenty : s.count.toNat = 20 := hless
  have hne : s.count ≠ 0 := by
    intro hzero
    rw [hzero] at htwenty
    cases htwenty
  rw [hremoved] at hcounted
  rw [if_neg hne] at hslot
  exact ⟨htidy, hremoved, Nat.add_right_cancel (hcounted.trans rfl), s, hs, htwenty, hslot⟩

end Inventory

end Chainwalk
