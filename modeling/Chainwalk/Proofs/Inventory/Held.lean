import Chainwalk.Proofs.Inventory.Slots

/-!
# What slots hold

An inventory is seen here as the list of what its slots hold, without the stacks' being kept
elsewhere. As long as no stack is in two slots, adding and removing can be told from this list
alone, and with whole numbers: items are *poured* along the slots, each of which takes up or gives
away as many as it can and leaves the others to those that come after it.

* `pour`: going along some places with an amount, of which each takes a part;
* `getElem?_pour`, `sum_map_pour`: what becomes of one place, and of all of them together;
* `Inventory.held`, `Inventory.Tidy`: what slots hold, and that no stack is in two of them;
* `Inventory.toNat_count`: the count of a material;
* `Inventory.held_fill`, `Inventory.held_place`, `Inventory.held_drain`: filling up, placing and
  draining are pouring.
-/

namespace Chainwalk

/-! ## Pouring -/

section Pour

variable {α : Type} {room : α → Nat} {change : α → Nat → α}

/-- Goes along some places with an amount: each is changed by what comes to it, and what is more
    than it has room for goes on to the next one. -/
def pour (room : α → Nat) (change : α → Nat → α) : List α → Nat → List α
  | [], _ => []
  | a :: l, n => change a n :: pour room change l (n - room a)

/-- To each place comes what is more than those before it have room for. -/
theorem getElem?_pour (l : List α) (n k : Nat) :
    (pour room change l n)[k]? = l[k]?.map (change · (n - ((l.take k).map room).sum)) := by
  induction l generalizing n k with
  | nil => rfl
  | cons a l ih =>
    cases k with
    | zero => rfl
    | succ k =>
      rw [pour, List.getElem?_cons_succ, ih, List.getElem?_cons_succ, List.take_succ_cons,
        List.map_cons, List.sum_cons, Nat.sub_sub]

/-- What every change keeps is kept everywhere. -/
theorem forall_mem_pour {P : α → Prop} (hP : ∀ a n, P a → P (change a n)) {l : List α}
    (hl : ∀ a ∈ l, P a) (n : Nat) : ∀ a ∈ pour room change l n, P a := by
  induction l generalizing n with
  | nil => exact hl
  | cons a l ih =>
    intro b hb
    rcases List.mem_cons.1 hb with rfl | hb
    · exact hP a n (hl a List.mem_cons_self)
    · exact ih (fun a ha => hl a (List.mem_cons_of_mem _ ha)) _ b hb

/-- What no place changes stays as it is. -/
theorem map_pour {β : Type} {f : α → β} (hf : ∀ a n, f (change a n) = f a) (l : List α) (n : Nat) :
    (pour room change l n).map f = l.map f := by
  induction l generalizing n with
  | nil => rfl
  | cons a l ih => rw [pour, List.map_cons, List.map_cons, hf, ih]

variable {f : α → Nat}

/-- If each place gains and loses in proportion to what it takes, then so do all together. -/
theorem sum_map_pour {gain loss : Nat}
    (hf : ∀ a n, f (change a n) + loss * min n (room a) = f a + gain * min n (room a))
    (l : List α) (n : Nat) :
    ((pour room change l n).map f).sum + loss * min n (l.map room).sum =
      (l.map f).sum + gain * min n (l.map room).sum := by
  induction l generalizing n with
  | nil => simp [pour]
  | cons a l ih =>
    have htakes : min n (room a + (l.map room).sum) =
        min n (room a) + min (n - room a) (l.map room).sum := by omega
    have hfirst := hf a n
    have hrest := ih (n - room a)
    simp only [pour, List.map_cons, List.sum_cons, htakes, Nat.mul_add]
    omega

theorem sum_map_pour_of_gain (hf : ∀ a n, f (change a n) = f a + min n (room a)) (l : List α)
    (n : Nat) :
    ((pour room change l n).map f).sum = (l.map f).sum + min n (l.map room).sum := by
  have hgain : ∀ a n, f (change a n) + 0 * min n (room a) = f a + 1 * min n (room a) := by
    simpa using hf
  simpa using sum_map_pour hgain l n

theorem sum_map_pour_of_loss (hf : ∀ a n, f (change a n) + min n (room a) = f a) (l : List α)
    (n : Nat) :
    ((pour room change l n).map f).sum + min n (l.map room).sum = (l.map f).sum := by
  have hloss : ∀ a n, f (change a n) + 1 * min n (room a) = f a + 0 * min n (room a) := by
    simpa using hf
  simpa using sum_map_pour hloss l n

variable (f)

theorem sum_map_take_succ {l : List α} {k : Nat} {a : α} (ha : l[k]? = some a) :
    ((l.take (k + 1)).map f).sum = ((l.take k).map f).sum + f a := by
  rw [List.take_add_one, ha, Option.toList_some, List.map_append, List.sum_append,
    List.map_singleton, List.sum_singleton]

theorem sum_map_take_le (l : List α) (k : Nat) : ((l.take k).map f).sum ≤ (l.map f).sum :=
  ((List.take_sublist k l).map f).sum_le_sum fun _ _ => Nat.zero_le _

end Pour

namespace Inventory

/-! ## What slots hold -/

/-- What slots hold. -/
def held (slots : List Slot) (table : Stacks) : List (Option ItemStack) :=
  slots.map (·.bind table.get?)

/-- Slots whose stacks are there, and each in one slot only. -/
structure Tidy (slots : List Slot) (table : Stacks) : Prop where
  present : ∀ r, some r ∈ slots → (table.get? r).isSome
  apart : Apart slots

variable {slots rest : List Slot} {slot : Slot} {table table' : Stacks} {r : Ref .stack}

theorem tidy_iff :
    Tidy slots table ↔ (∀ slot ∈ slots, ∀ r ∈ slot, (table.get? r).isSome) ∧ Apart slots :=
  ⟨fun h => ⟨fun _ hslot r hr => h.present r (hr ▸ hslot), h.apart⟩,
    fun h => ⟨fun r hr => h.1 _ hr r rfl, h.2⟩⟩

instance : Decidable (Apart slots) :=
  inferInstanceAs (Decidable (slots.Pairwise fun a b => a = b → a = none))

instance : Decidable (Tidy slots table) := decidable_of_iff _ tidy_iff.symm

theorem held_cons (slot : Slot) (rest : List Slot) (table : Stacks) :
    held (slot :: rest) table = slot.bind table.get? :: held rest table := rfl

/-- A slot holds a stack if it has one that is there. -/
theorem getElem?_held_eq_some_some_iff {k : Nat} {s : ItemStack} :
    (held slots table)[k]? = some (some s) ↔
      ∃ r, slots[k]? = some (some r) ∧ table.get? r = some s := by
  rw [held, List.getElem?_map, Option.map_eq_some_iff]
  constructor
  · rintro ⟨slot, hslot, hs⟩
    obtain ⟨r, rfl, hr⟩ := Option.bind_eq_some_iff.1 hs
    exact ⟨r, hslot, hr⟩
  · rintro ⟨r, hr, hs⟩
    exact ⟨some r, hr, hs⟩

theorem getElem?_held_eq_some_none_iff (h : Tidy slots table) {k : Nat} :
    (held slots table)[k]? = some none ↔ slots[k]? = some none := by
  rw [held, List.getElem?_map, Option.map_eq_some_iff]
  refine ⟨fun ⟨slot, hslot, hnone⟩ => ?_, fun hslot => ⟨none, hslot, rfl⟩⟩
  cases slot with
  | none => exact hslot
  | some r =>
    have hthere := h.present r (List.mem_of_getElem? hslot)
    rw [Option.bind_some] at hnone
    rw [hnone] at hthere
    cases hthere

/-- What is in the same place of two lists of slots, for the first place and for the others. -/
theorem getElem?_cons_imp {first first' x : Slot} {others others' : List Slot} {k : Nat}
    (hfirst : first = x → first' = x)
    (hothers : ∀ k : Nat, others[k]? = some x → others'[k]? = some x)
    (hk : (first :: others)[k]? = some x) : (first' :: others')[k]? = some x := by
  cases k with
  | zero => exact congrArg some (hfirst (Option.some.inj hk))
  | succ k => exact hothers k hk

theorem held_congr (h : ∀ r, some r ∈ slots → table'.get? r = table.get? r) :
    held slots table' = held slots table := by
  refine List.map_congr_left fun slot hslot => ?_
  cases slot with
  | none => rfl
  | some r => exact h r hslot

theorem Tidy.tail (h : Tidy (slot :: rest) table) : Tidy rest table where
  present r hr := h.present r (List.mem_cons_of_mem _ hr)
  apart := (List.pairwise_cons.1 h.apart).2

theorem Tidy.not_mem (h : Tidy (some r :: rest) table) : some r ∉ rest := fun hr =>
  absurd ((List.pairwise_cons.1 h.apart).1 _ hr rfl) (Option.some_ne_none r)

theorem Tidy.exists_get? (h : Tidy (some r :: rest) table) : ∃ s, table.get? r = some s :=
  Option.isSome_iff_exists.1 (h.present r List.mem_cons_self)

/-- The stacks in some slots do not change with another one. -/
theorem get?_modify_of_mem (hr : some r ∉ rest) (table : Stacks) (f : ItemStack → ItemStack) :
    ∀ q, some q ∈ rest → (table.modify r f).get? q = table.get? q := by
  intro q hq
  rw [Table.get?_modify, if_neg]
  rintro rfl
  exact hr hq

theorem Tidy.congr (h : Tidy slots table)
    (hsame : ∀ r, some r ∈ slots → table'.get? r = table.get? r) : Tidy slots table' where
  present r hr := by
    rw [hsame r hr]
    exact h.present r hr
  apart := h.apart

/-- Rearranging keeps slots tidy. -/
theorem Tidy.rearranged {slots' : List Slot} (h : Tidy slots table)
    (hrearranges : Rearranges slots table slots' table') : Tidy slots' table' where
  present r hr := by
    obtain ⟨k, hk⟩ := List.mem_iff_getElem?.1 hr
    rcases hrearranges.held k r hk with hold | ⟨-, hthere, -⟩
    · exact hrearranges.present r (h.present r (List.mem_of_getElem? hold))
    · exact hthere
  apart := by
    have hold := List.pairwise_iff_getElem.1 h.apart
    refine List.pairwise_iff_getElem.2 fun j k hj hk hjk heq => ?_
    by_contra hsome
    obtain ⟨r, hr⟩ := Option.ne_none_iff_exists'.1 hsome
    have hrj : slots'[j]? = some (some r) := hr ▸ List.getElem?_eq_getElem hj
    have hrk : slots'[k]? = some (some r) := hr ▸ heq ▸ List.getElem?_eq_getElem hk
    rcases hrearranges.held j r hrj with hj' | ⟨-, -, honly⟩
    · rcases hrearranges.held k r hrk with hk' | ⟨-, -, honly⟩
      · obtain ⟨hj', hrj'⟩ := List.getElem?_eq_some_iff.1 hj'
        obtain ⟨hk', hrk'⟩ := List.getElem?_eq_some_iff.1 hk'
        have hnone := hold j k hj' hk' hjk (hrj'.trans hrk'.symm)
        rw [hrj'] at hnone
        contradiction
      · exact hjk.ne (honly j hrj)
    · exact hjk.ne' (honly k hrk)

/-! ## Counting -/

variable (m : Material)

/-- How many items of the material a slot holds. -/
def itemsIn : Option ItemStack → Nat
  | some s => if s.material = m then s.count.toNat else 0
  | none => 0

/-- How many items of the material slots hold. -/
def items (v : List (Option ItemStack)) : Nat := (v.map (itemsIn m)).sum

theorem itemsIn_le (slot : Option ItemStack) : itemsIn m slot ≤ 255 := by
  cases slot with
  | none => exact Nat.zero_le _
  | some s =>
    have := s.count.toNat_lt
    rw [itemsIn]
    split <;> omega

theorem items_le (v : List (Option ItemStack)) : items m v ≤ 255 * v.length := by
  rw [items, ← List.length_map (itemsIn m), Nat.mul_comm, ← smul_eq_mul]
  refine List.sum_le_card_nsmul _ 255 fun n hn => ?_
  obtain ⟨slot, -, rfl⟩ := List.mem_map.1 hn
  exact itemsIn_le m slot

/-- What is counted is what the slots hold. -/
theorem sum_counted (slots : List Slot) (table : Stacks) :
    (((slots.filterMap (·.bind table.get?)).filter (·.material = m)).map (·.count.toNat)).sum =
      items m (held slots table) := by
  induction slots with
  | nil => rfl
  | cons slot rest ih =>
    rw [items] at ih ⊢
    rw [held, List.map_cons, List.map_cons, List.sum_cons, ← held, ← ih, List.filterMap_cons]
    cases slot.bind table.get? with
    | none => rw [itemsIn, Nat.zero_add]
    | some s =>
      rw [itemsIn, List.filter_cons]
      by_cases hm : s.material = m
      · rw [if_pos (decide_eq_true hm), if_pos hm, List.map_cons, List.sum_cons]
      · rw [if_neg (by simpa using hm), if_neg hm, Nat.zero_add]

theorem toNat_foldl_count (l : List ItemStack) (n : UInt32)
    (h : n.toNat + (l.map (·.count.toNat)).sum < UInt32.size) :
    (l.foldl (fun n s => n + s.count.toUInt32) n).toNat =
      n.toNat + (l.map (·.count.toNat)).sum := by
  induction l generalizing n with
  | nil => simp
  | cons s l ih =>
    rw [List.map_cons, List.sum_cons, ← Nat.add_assoc] at h ⊢
    have hadd : (n + s.count.toUInt32).toNat = n.toNat + s.count.toNat := by
      rw [UInt32.toNat_add, UInt8.toNat_toUInt32]
      exact Nat.mod_eq_of_lt ((Nat.le_add_right _ _).trans_lt h)
    rw [List.foldl_cons, ih _ (by rwa [hadd]), hadd]

/-- The count of a material is that of all slots together: they are too few to hold too many. -/
theorem toNat_count (i : Inventory) (table : Stacks) :
    (i.count m table).toNat = items m (held i.slots table) := by
  have hle : items m (held i.slots table) ≤ 255 * 36 := by
    refine (items_le m _).trans (Nat.mul_le_mul_left _ ?_)
    rw [held, List.length_map, i.length_slots, inventorySize]
  rw [count, toNat_foldl_count, sum_counted, UInt32.toNat_zero, Nat.zero_add]
  rw [sum_counted, UInt32.toNat_zero, Nat.zero_add]
  exact hle.trans_lt (by decide)

/-! ## Filling up -/

/-- How many further items of the material the stack in a slot can take. -/
def spaceIn : Option ItemStack → Nat
  | some s => if s.material = m then s.space.toNat else 0
  | none => 0

/-- A slot after as many further items as fit have been put to its stack, if it is of the
    material. -/
def topUp : Option ItemStack → Nat → Option ItemStack
  | some s, n =>
    if s.material = m then some { s with count := .ofNat (s.count.toNat + min n s.space.toNat) }
    else some s
  | none, _ => none

theorem toNat_sub_min (n k : UInt8) : (n - min n k).toNat = n.toNat - k.toNat := by
  have hle : min n k ≤ n := UInt8.le_iff_toNat_le.2 (by rw [toNat_min]; omega)
  rw [UInt8.toNat_sub_of_le _ _ hle, toNat_min]
  omega

/-- Adding to a stack is topping it up. -/
theorem topUp_eq_add {s : ItemStack} (hs : s.material = m) (n : UInt8) :
    topUp m (some s) n.toNat = some (s.add n) := by
  rw [topUp, if_pos hs, ItemStack.add, ← toNat_min, UInt8.ofNat_add, UInt8.ofNat_toNat,
    UInt8.ofNat_toNat]

/-- A slot is left alone if it has no space, or if there is nothing to put into it. -/
theorem topUp_eq_self {slot : Option ItemStack} {n : Nat} (h : min n (spaceIn m slot) = 0) :
    topUp m slot n = slot := by
  cases slot with
  | none => rfl
  | some s =>
    rw [topUp]
    split
    · rename_i hm
      rw [spaceIn, if_pos hm] at h
      rw [h, Nat.add_zero, UInt8.ofNat_toNat]
    · rfl

theorem space_eq_zero_of_isFull {s : ItemStack} (hs : s.isFull) : s.space.toNat = 0 := by
  rw [ItemStack.isFull, decide_eq_true_iff, UInt8.le_iff_toNat_le] at hs
  rw [ItemStack.toNat_space]
  omega

/-- Nothing goes to a stack that is not to be filled up. -/
theorem min_spaceIn_eq_zero {s : ItemStack} {n : UInt8}
    (h : ¬(s.material = m && !s.isFull && n != 0)) : min n.toNat (spaceIn m (some s)) = 0 := by
  rw [spaceIn]
  by_cases hm : s.material = m
  · rw [if_pos hm]
    by_cases hfull : s.isFull
    · rw [space_eq_zero_of_isFull hfull, Nat.min_zero]
    · have hn : n = 0 := by simpa [hm, hfull] using h
      rw [hn, UInt8.toNat_zero, Nat.zero_min]
  · rw [if_neg hm, Nat.min_zero]

/-- Filling up is pouring into the space of the stacks. -/
theorem held_fill {n : UInt8} (h : Tidy slots table) :
    held slots (fill m slots n table).2 = pour (spaceIn m) (topUp m) (held slots table) n.toNat ∧
      (fill m slots n table).1.toNat = n.toNat - ((held slots table).map (spaceIn m)).sum := by
  induction slots generalizing n table with
  | nil => exact ⟨rfl, rfl⟩
  | cons slot rest ih =>
    rw [held_cons, held_cons, pour, List.map_cons, List.sum_cons, ← Nat.sub_sub]
    rcases slot with _ | r
    · obtain ⟨hheld, hleft⟩ := ih (n := n) h.tail
      exact ⟨congrArg (none :: ·) hheld, hleft⟩
    · obtain ⟨s, hs⟩ := h.exists_get?
      have hstays (n : UInt8) {table : Stacks} {s : ItemStack} (hs : table.get? r = some s) :
          (fill m rest n table).2.get? r = some s :=
        (rearranges_fill m rest n table).elsewhere r h.not_mem s hs
      rw [fill, hs]
      simp only [Option.bind_some]
      rw [hs]
      split
      · rename_i hput
        simp only [Bool.and_eq_true, decide_eq_true_eq] at hput
        have hrest := get?_modify_of_mem h.not_mem table (·.add n)
        obtain ⟨hheld, hleft⟩ := ih (n := s.excess n) (h.tail.congr hrest)
        have hadded : (table.modify r (·.add n)).get? r = some (s.add n) := by
          rw [Table.get?_modify, if_pos rfl, hs, Option.map_some]
        rw [hheld, hleft, hstays _ hadded, held_congr hrest, ItemStack.excess, toNat_sub_min,
          topUp_eq_add m hput.1.1, spaceIn, if_pos hput.1.1]
        exact ⟨rfl, rfl⟩
      · rename_i hput
        obtain ⟨hheld, hleft⟩ := ih (n := n) h.tail
        have hnone := min_spaceIn_eq_zero m hput
        have hpasses : n.toNat - spaceIn m (some s) = n.toNat := by omega
        rw [hheld, hleft, hstays n hs, topUp_eq_self m hnone, hpasses]
        exact ⟨rfl, rfl⟩

/-! ## New stacks -/

/-- How many items a new stack in the slot can hold, if the slot is empty. -/
def vacancyIn : Option ItemStack → Nat
  | some _ => 0
  | none => m.maxStackSize.toNat

/-- A slot after a new stack of as many items as fit has been put into it, if it is empty and there
    are any. -/
def occupy : Option ItemStack → Nat → Option ItemStack
  | some s, _ => some s
  | none, n => if n = 0 then none else some ⟨m, .ofNat (min n m.maxStackSize.toNat)⟩

theorem pour_vacancyIn_zero (v : List (Option ItemStack)) :
    pour (vacancyIn m) (occupy m) v 0 = v := by
  induction v with
  | nil => rfl
  | cons slot v ih =>
    rw [pour, Nat.zero_sub, ih]
    cases slot <;> rfl

theorem sum_vacancyIn (v : List (Option ItemStack)) :
    (v.map (vacancyIn m)).sum = m.maxStackSize.toNat * v.count none := by
  induction v with
  | nil => rfl
  | cons slot v ih =>
    rw [List.map_cons, List.sum_cons, ih]
    cases slot with
    | none => rw [List.count_cons_self, vacancyIn, Nat.mul_succ, Nat.add_comm]
    | some s => rw [List.count_cons_of_ne (by simp), vacancyIn, Nat.zero_add]

/-- A stack made of no more items than there may be has so many. -/
theorem make_min (n : UInt8) :
    ItemStack.make m (min n m.maxStackSize) =
      ⟨m, .ofNat (min n.toNat m.maxStackSize.toNat)⟩ := by
  have hmin : min (min n m.maxStackSize) m.maxStackSize = min n m.maxStackSize :=
    UInt8.toNat_inj.1 (by rw [toNat_min, toNat_min]; omega)
  rw [ItemStack.make, hmin, ← toNat_min, UInt8.ofNat_toNat]

/-- Placing is pouring into empty slots. -/
theorem held_place {n : UInt8} (h : ∀ r, some r ∈ slots → (table.get? r).isSome) :
    held (place m slots n table).1 (place m slots n table).2.2 =
        pour (vacancyIn m) (occupy m) (held slots table) n.toNat ∧
      (place m slots n table).2.1.toNat =
        n.toNat - ((held slots table).map (vacancyIn m)).sum := by
  induction slots generalizing n table with
  | nil => exact ⟨rfl, rfl⟩
  | cons slot rest ih =>
    have hrest (r) (hr : some r ∈ rest) := h r (List.mem_cons_of_mem _ hr)
    rcases slot with _ | r
    · rw [place]
      split
      · rename_i hn
        rw [hn, UInt8.toNat_zero, pour_vacancyIn_zero, Nat.zero_sub]
        exact ⟨rfl, rfl⟩
      · rename_i hn
        have hn : n.toNat ≠ 0 := fun hzero => hn (UInt8.toNat_inj.1 hzero)
        -- The stacks of the other slots were there before the new one.
        have hold (r) (hr : some r ∈ rest) (s : ItemStack) :
            (table.insert s).get? r = table.get? r := by
          obtain ⟨a, ha⟩ := Option.isSome_iff_exists.1 (hrest r hr)
          rw [ha, table.get?_insert_of_get? ha]
        have hthere (r) (hr : some r ∈ rest) :
            ((table.insert (.make m (min n m.maxStackSize))).get? r).isSome := by
          rw [hold r hr]
          exact hrest r hr
        obtain ⟨hheld, hleft⟩ := ih (n := n - min n m.maxStackSize) hthere
        rw [held_congr fun r hr => hold r hr _, toNat_sub_min] at hheld hleft
        rw [held_cons, held_cons, pour, List.map_cons, List.sum_cons, ← Nat.sub_sub, hheld, hleft,
          Option.bind_some, get?_place m (table.get?_insert_self _), Option.bind_none, occupy,
          if_neg hn, make_min]
        exact ⟨rfl, rfl⟩
    · obtain ⟨s, hs⟩ := Option.isSome_iff_exists.1 (h r List.mem_cons_self)
      obtain ⟨hheld, hleft⟩ := ih (n := n) hrest
      rw [place, held_cons, held_cons, pour, List.map_cons, List.sum_cons, ← Nat.sub_sub, hheld,
        hleft, Option.bind_some, get?_place m hs, Option.bind_some, hs]
      exact ⟨rfl, rfl⟩

/-! ## Draining -/

/-- A slot after as many items as there are to be taken, or as it has, have been taken from its
    stack, if it is of the material. The stack stays there even if nothing is left. -/
def lower : Option ItemStack → Nat → Option ItemStack
  | some s, n =>
    if s.material = m then some { s with count := .ofNat (s.count.toNat - n) } else some s
  | none, _ => none

/-- A slot after as many items as there are to be taken, or as it has, have been taken from it. It
    is emptied if nothing is left. -/
def lessen : Option ItemStack → Nat → Option ItemStack
  | some s, n =>
    if s.material = m ∧ n ≠ 0 then
      if s.count.toNat ≤ n then none else some { s with count := .ofNat (s.count.toNat - n) }
    else some s
  | none, _ => none

/-- A slot is left alone if it holds another material, or if nothing is to be taken. -/
theorem lessen_eq_self {s : ItemStack} {n : Nat} (h : ¬(s.material = m ∧ n ≠ 0)) :
    lessen m (some s) n = some s := by
  rw [lessen, if_neg h]

theorem lower_eq_self {s : ItemStack} {n : Nat} (h : ¬(s.material = m ∧ n ≠ 0)) :
    lower m (some s) n = some s := by
  rw [lower]
  split
  · rename_i hm
    have hn : n = 0 := not_ne_iff.1 (not_and.1 h hm)
    rw [hn, Nat.sub_zero, UInt8.ofNat_toNat]
  · rfl

theorem sub_itemsIn_eq_self {s : ItemStack} {n : Nat} (h : ¬(s.material = m ∧ n ≠ 0)) :
    n - itemsIn m (some s) = n := by
  rw [itemsIn]
  split
  · rename_i hm
    have hn : n = 0 := not_ne_iff.1 (not_and.1 h hm)
    rw [hn, Nat.zero_sub]
  · rfl

/-- As many items as can be taken from one stack at a time. -/
theorem toNat_atOnce (n : UInt32) :
    (if n < 255 then n.toUInt8 else 255).toNat = min n.toNat 255 := by
  split
  · rename_i hn
    rw [UInt32.lt_iff_toNat_lt] at hn
    change n.toNat < 255 at hn
    rw [UInt32.toNat_toUInt8, Nat.mod_eq_of_lt (by omega)]
    omega
  · rename_i hn
    rw [UInt32.lt_iff_toNat_lt] at hn
    change ¬n.toNat < 255 at hn
    change 255 = _
    omega

variable {m}

/-- A stack never has more items than can be taken at a time. -/
theorem lower_eq_remove {s : ItemStack} (hs : s.material = m) {n : UInt32} {k : UInt8}
    (hk : k.toNat = min n.toNat 255) : lower m (some s) n.toNat = some (s.remove k) := by
  have hcount := ItemStack.toNat_count_remove (s := s) k
  have hlt := s.count.toNat_lt
  have hless : UInt8.ofNat (s.count.toNat - n.toNat) = (s.remove k).count := by
    rw [← UInt8.toNat_inj, hcount, UInt8.toNat_ofNat']
    omega
  rw [lower, if_pos hs, hless]
  rfl

/-- Taking items from a stack, which then may leave its slot, is lessening it. -/
theorem lessen_eq_remove {s : ItemStack} (hs : s.material = m) {n : UInt32} (hn : n.toNat ≠ 0)
    {k : UInt8} (hk : k.toNat = min n.toNat 255) :
    lessen m (some s) n.toNat =
      if (s.remove k).count = 0 then none else some (s.remove k) := by
  have hzero : s.count.toNat ≤ n.toNat ↔ (s.remove k).count = 0 := by
    have hlt := s.count.toNat_lt
    rw [← UInt8.toNat_inj, ItemStack.toNat_count_remove, UInt8.toNat_zero]
    omega
  have hlower := lower_eq_remove hs hk
  rw [lower, if_pos hs] at hlower
  rw [lessen, if_pos ⟨hs, hn⟩, hlower]
  simp only [hzero]

theorem toNat_sub_removable (s : ItemStack) (n : UInt32) {k : UInt8}
    (hk : k.toNat = min n.toNat 255) :
    (n - (s.removable k).toUInt32).toNat = n.toNat - s.count.toNat := by
  have hlt := s.count.toNat_lt
  have htaken : (s.removable k).toUInt32.toNat = min n.toNat s.count.toNat := by
    rw [UInt8.toNat_toUInt32, ItemStack.removable, toNat_min]
    omega
  have hle : (s.removable k).toUInt32 ≤ n := UInt32.le_iff_toNat_le.2 (by omega)
  rw [UInt32.toNat_sub_of_le _ _ hle]
  omega

variable (m)

/-- Draining is pouring into the items of the stacks, both for the slots as they are then and for
    the stacks that were in them. -/
theorem held_drain {n : UInt32} (h : Tidy slots table) :
    held (drain m slots n table).1 (drain m slots n table).2.2 =
        pour (itemsIn m) (lessen m) (held slots table) n.toNat ∧
      held slots (drain m slots n table).2.2 =
        pour (itemsIn m) (lower m) (held slots table) n.toNat ∧
      (drain m slots n table).2.1.toNat = n.toNat - items m (held slots table) := by
  induction slots generalizing n table with
  | nil => exact ⟨rfl, rfl, rfl⟩
  | cons slot rest ih =>
    simp only [items] at ih ⊢
    rw [held_cons slot rest table, pour, pour, List.map_cons, List.sum_cons, ← Nat.sub_sub]
    rcases slot with _ | r
    · obtain ⟨hheld, hstacks, hleft⟩ := ih (n := n) h.tail
      exact ⟨congrArg (none :: ·) hheld, congrArg (none :: ·) hstacks, hleft⟩
    · obtain ⟨s, hs⟩ := h.exists_get?
      have hstays (n : UInt32) {table : Stacks} {s : ItemStack} (ht : Tidy rest table)
          (hs : table.get? r = some s) : (drain m rest n table).2.2.get? r = some s :=
        (rearranges_drain m ht.present).elsewhere r h.not_mem s hs
      rw [drain, hs]
      simp only [Option.bind_some]
      rw [hs]
      split
      · rename_i htake
        simp only [Bool.and_eq_true, decide_eq_true_eq, bne_iff_ne, ne_eq] at htake
        have hn : n.toNat ≠ 0 := fun hzero => htake.2 (UInt32.toNat_inj.1 hzero)
        have hk := toNat_atOnce n
        generalize (if n < 255 then n.toUInt8 else 255) = k at hk
        have hrest := get?_modify_of_mem h.not_mem table fun _ => s.remove k
        have htidy := h.tail.congr hrest
        obtain ⟨hheld, hstacks, hleft⟩ := ih (n := n - (s.removable k).toUInt32) htidy
        have hremoved : (table.modify r fun _ => s.remove k).get? r = some (s.remove k) := by
          rw [Table.get?_modify, if_pos rfl, hs, Option.map_some]
        rw [held_congr hrest, toNat_sub_removable s n hk] at hheld hstacks hleft
        rw [held_cons, held_cons, hheld, hstacks, hleft, lessen_eq_remove htake.1 hn hk,
          lower_eq_remove htake.1 hk, itemsIn, if_pos htake.1, Option.bind_some,
          hstays _ htidy hremoved]
        refine ⟨?_, rfl, rfl⟩
        split
        · rfl
        · rw [Option.bind_some, hstays _ htidy hremoved]
      · rename_i htake
        simp only [Bool.and_eq_true, decide_eq_true_eq, bne_iff_ne, ne_eq] at htake
        have hkeep : ¬(s.material = m ∧ n.toNat ≠ 0) := fun hkeep =>
          htake ⟨hkeep.1, fun hn => hkeep.2 (congrArg UInt32.toNat hn)⟩
        obtain ⟨hheld, hstacks, hleft⟩ := ih (n := n) h.tail
        rw [held_cons, held_cons, hheld, hstacks, hleft, Option.bind_some, hstays n h.tail hs,
          lessen_eq_self m hkeep, lower_eq_self m hkeep, sub_itemsIn_eq_self m hkeep]
        exact ⟨rfl, rfl, rfl⟩

end Inventory

end Chainwalk
