import Mathlib
import Chainwalk.Realm.Inventory

/-!
# Slots and their stacks

What adding and removing make of the slots of one inventory and of the table of all stacks. Adding
first fills up stacks that are there, which only makes them larger, and then puts new stacks into
empty slots. Removing takes from the stacks in the slots, and a stack that ends without items leaves
its slot. Nothing is done to stacks that stand elsewhere.

* `ItemStack.toNat_count_add`, `ItemStack.toNat_count_remove`: the counts, as whole numbers;
* `Inventory.fill_induction`: filling up is adding to one stack after another;
* `Rearranges`: what both make of the slots and of the table, the counts apart;
* `Inventory.rearranges_add`, `Inventory.rearranges_drain`: adding and removing do no more;
* `Inventory.stocked_add`, `Inventory.stocked_drain`: slots that hold items go on holding items.
-/

namespace Chainwalk

/-- The smaller of two numbers of 8 bits, as a whole number. -/
theorem toNat_min (a b : UInt8) : (min a b).toNat = min a.toNat b.toNat := by
  change (if a ≤ b then a else b).toNat = _
  split
  · rename_i h
    rw [UInt8.le_iff_toNat_le] at h
    exact (Nat.min_eq_left h).symm
  · rename_i h
    rw [UInt8.le_iff_toNat_le] at h
    omega

theorem min_le_right_uint8 (a b : UInt8) : min a b ≤ b := by
  rw [UInt8.le_iff_toNat_le, toNat_min]
  exact Nat.min_le_right _ _

namespace ItemStack

variable (s : ItemStack) (n : UInt8)

/-- A stack of no more items than there may be. -/
def InBounds : Prop := s.count ≤ s.maxSize

theorem inBounds_make (m : Material) : (make m n).InBounds := min_le_right_uint8 _ _

theorem inBounds_withCount : (s.withCount n).InBounds := min_le_right_uint8 _ _

/-- A stack has no items exactly if it is given none. -/
theorem count_withCount_eq_zero_iff : (s.withCount n).count = 0 ↔ n = 0 := by
  have hmax := UInt8.lt_iff_toNat_lt.1 s.material.maxStackSize_pos
  rw [← UInt8.toNat_inj, ← UInt8.toNat_inj, withCount, toNat_min, maxSize]
  simp only [UInt8.toNat_zero] at hmax ⊢
  omega

theorem count_make_eq_zero_iff (m : Material) : (make m n).count = 0 ↔ n = 0 :=
  (⟨m, 0⟩ : ItemStack).count_withCount_eq_zero_iff n

theorem toNat_space : s.space.toNat = s.maxSize.toNat - s.count.toNat := by
  rw [space]
  split
  · rename_i h
    rw [UInt8.lt_iff_toNat_lt] at h
    exact UInt8.toNat_sub_of_le _ _ (UInt8.le_iff_toNat_le.2 h.le)
  · rename_i h
    rw [UInt8.lt_iff_toNat_lt] at h
    simp
    omega

variable {s}

theorem toNat_count_add (hs : s.InBounds) :
    (s.add n).count.toNat = min (s.count.toNat + n.toNat) s.maxSize.toNat := by
  have hmax := UInt8.le_iff_toNat_le.1 hs
  have hlt := s.maxSize.toNat_lt
  rw [add, UInt8.toNat_add, toNat_min, toNat_space]
  omega

theorem toNat_count_remove : (s.remove n).count.toNat = s.count.toNat - n.toNat := by
  rw [remove, removable, UInt8.toNat_sub_of_le _ _ (min_le_right_uint8 _ _), toNat_min]
  omega

theorem InBounds.add (hs : s.InBounds) : (s.add n).InBounds := by
  rw [InBounds, UInt8.le_iff_toNat_le, toNat_count_add n hs]
  exact min_le_right _ _

theorem InBounds.remove (hs : s.InBounds) : (s.remove n).InBounds := by
  rw [InBounds, UInt8.le_iff_toNat_le, toNat_count_remove]
  have hmax := UInt8.le_iff_toNat_le.1 hs
  exact (Nat.sub_le _ _).trans hmax

end ItemStack

/-- A table without a stack of more items than there may be. -/
def Stacks.InBounds (table : Stacks) : Prop := ∀ r s, table.get? r = some s → s.InBounds

theorem Stacks.InBounds.insert {table : Stacks} (ht : Stacks.InBounds table) {s : ItemStack}
    (hs : s.InBounds) : Stacks.InBounds (table.insert s) := by
  intro r s' hr
  rw [Table.get?_insert] at hr
  split at hr
  · exact Option.some.inj hr ▸ hs
  · exact ht r s' hr

theorem Stacks.InBounds.modify {table : Stacks} (ht : Stacks.InBounds table) {r : Ref .stack}
    {f : ItemStack → ItemStack} (hf : ∀ s, table.get? r = some s → (f s).InBounds) :
    Stacks.InBounds (table.modify r f) := by
  intro q s hq
  rw [Table.get?_modify] at hq
  split at hq
  · rename_i heq
    obtain ⟨s', hs', rfl⟩ := Option.map_eq_some_iff.1 hq
    exact hf s' (heq ▸ hs')
  · exact ht q s hq

/-! ## What becomes of the slots of an inventory -/

/-- How the slots of one inventory and the table of all stacks may change: no stack is lost, and
    those that stand elsewhere stay as they are. A stack that is in a slot afterwards was there
    before, or it is new and is in no other slot. -/
structure Rearranges (slots : List Slot) (table : Stacks) (slots' : List Slot) (table' : Stacks) :
    Prop where
  inBounds : Stacks.InBounds table → Stacks.InBounds table'
  present : ∀ r, (table.get? r).isSome → (table'.get? r).isSome
  elsewhere : ∀ r, some r ∉ slots → ∀ s, table.get? r = some s → table'.get? r = some s
  held : ∀ (k : Nat) r, slots'[k]? = some (some r) → slots[k]? = some (some r) ∨
    table.get? r = none ∧ (table'.get? r).isSome ∧ ∀ k' : Nat, slots'[k']? = some (some r) → k' = k

/-- Whether every stack in the slots holds items. -/
def Stocked (slots : List Slot) (table : Stacks) : Prop :=
  ∀ r, some r ∈ slots → ∀ s, table.get? r = some s → s.count ≠ 0

/-- Whether no stack is in two of the slots. -/
def Apart (slots : List Slot) : Prop := slots.Pairwise fun a b => a = b → a = none

namespace Rearranges

variable {slots slots' slots'' : List Slot} {table table' table'' : Stacks}

/-- Slots are only emptied. -/
theorem of_subset (hslots : ∀ (k : Nat) r, slots'[k]? = some (some r) → slots[k]? = some (some r)) :
    Rearranges slots table slots' table :=
  ⟨id, fun _ => id, fun _ _ _ => id, fun k r hr => .inl (hslots k r hr)⟩

theorem trans (h : Rearranges slots table slots' table')
    (h' : Rearranges slots' table' slots'' table'') : Rearranges slots table slots'' table'' where
  inBounds := h'.inBounds ∘ h.inBounds
  present r hr := h'.present r (h.present r hr)
  elsewhere r hr s hs := by
    refine h'.elsewhere r (fun hr' => ?_) s (h.elsewhere r hr s hs)
    -- It has not come into a slot, because only new stacks do.
    obtain ⟨k, hk⟩ := List.mem_iff_getElem?.1 hr'
    rcases h.held k r hk with hk | ⟨hnew, -⟩
    · exact hr (List.mem_of_getElem? hk)
    · rw [hnew] at hs
      contradiction
  held k r hk := by
    rcases h'.held k r hk with hk' | ⟨hnew, hthere, honly⟩
    · rcases h.held k r hk' with hk' | ⟨hnew, hthere, honly⟩
      · exact .inl hk'
      · refine .inr ⟨hnew, h'.present r hthere, fun k' hk'' => ?_⟩
        rcases h'.held k' r hk'' with hk'' | ⟨hnew', -⟩
        · exact honly k' hk''
        · rw [hnew'] at hthere
          contradiction
    · refine .inr ⟨?_, hthere, honly⟩
      by_contra hold
      have := h.present r (Option.isSome_iff_ne_none.2 hold)
      rw [hnew] at this
      contradiction

end Rearranges

namespace Inventory

variable (m : Material)

/-! ## Filling up -/

/-- Filling up is adding to one stack in a slot after another. -/
theorem fill_induction {P : Stacks → Prop} {slots : List Slot} {n : UInt8} {table : Stacks}
    (h : P table) (hadd : ∀ t r k, some r ∈ slots → P t → P (t.modify r (·.add k))) :
    P (fill m slots n table).2 := by
  induction slots generalizing n table with
  | nil => exact h
  | cons slot slots ih =>
    have hrest : ∀ t r k, some r ∈ slots → P t → P (t.modify r (·.add k)) :=
      fun t r k hr => hadd t r k (List.mem_cons_of_mem _ hr)
    rcases slot with _ | r
    · exact ih h hrest
    · rw [fill]
      split
      · split
        · exact ih (hadd _ _ _ List.mem_cons_self h) hrest
        · exact ih h hrest
      · exact ih h hrest

/-- The table with further items in a stack of a slot. -/
theorem rearranges_modify_add {slots : List Slot} {table : Stacks} {r : Ref .stack}
    (hr : some r ∈ slots) (k : UInt8) :
    Rearranges slots table slots (table.modify r (·.add k)) where
  inBounds ht := ht.modify fun s hs => (ht r s hs).add k
  present q hq := by
    rw [Table.get?_modify]
    split
    · rwa [Option.isSome_map]
    · exact hq
  elsewhere q hq s hs := by
    rw [Table.get?_modify, if_neg, hs]
    rintro rfl
    exact hq hr
  held _ _ := .inl

theorem rearranges_fill (slots : List Slot) (n : UInt8) (table : Stacks) :
    Rearranges slots table slots (fill m slots n table).2 :=
  fill_induction m (.of_subset fun _ _ => id) fun _ _ k hr h => h.trans (rearranges_modify_add hr k)

/-- A stack that is filled up does not get smaller. -/
theorem le_count_fill {slots : List Slot} {n : UInt8} {table : Stacks}
    (ht : Stacks.InBounds table) {r : Ref .stack} {s : ItemStack} (hs : table.get? r = some s) :
    ∃ s', (fill m slots n table).2.get? r = some s' ∧ s.count.toNat ≤ s'.count.toNat := by
  refine (fill_induction m (P := fun t => Stacks.InBounds t ∧
    ∃ s', t.get? r = some s' ∧ s.count.toNat ≤ s'.count.toNat) ?_ ?_).2
  · exact ⟨ht, s, hs, le_rfl⟩
  · rintro t q k - ⟨ht, s', hs', hle⟩
    refine ⟨ht.modify fun s hs => (ht q s hs).add k, ?_⟩
    rw [Table.get?_modify, hs']
    split
    · refine ⟨s'.add k, rfl, hle.trans ?_⟩
      have hmax := UInt8.le_iff_toNat_le.1 (ht r s' hs')
      rw [ItemStack.toNat_count_add k (ht r s' hs')]
      omega
    · exact ⟨s', rfl, hle⟩

/-! ## New stacks -/

/-- A new stack is put into the first of some slots, which is empty, and the others are rearranged
    afterwards. -/
theorem rearranges_cons_new {rest rest' : List Slot} {table table' : Stacks} {s : ItemStack}
    (hs : s.InBounds) (hrest : ∀ r, some r ∈ rest → (table.get? r).isSome)
    (h : Rearranges rest (table.insert s) rest' table') :
    Rearranges (none :: rest) table (some table.next :: rest') table' where
  inBounds ht := h.inBounds (ht.insert hs)
  present r hr := by
    obtain ⟨a, ha⟩ := Option.isSome_iff_exists.1 hr
    exact h.present r (Option.isSome_iff_exists.2 ⟨a, table.get?_insert_of_get? ha⟩)
  elsewhere r hr a ha := by
    rw [List.mem_cons, not_or] at hr
    exact h.elsewhere r hr.2 a (table.get?_insert_of_get? ha)
  held k r hk := by
    have hthere : ((table.insert s).get? table.next).isSome := by simp
    -- The new stack is in no other slot, because the stacks of the others were there before.
    have honly (j : Nat) : rest'[j]? ≠ some (some table.next) := by
      intro hj
      rcases h.held j _ hj with hold | ⟨hnew, -⟩
      · have := hrest _ (List.mem_of_getElem? hold)
        rw [table.get?_next] at this
        contradiction
      · rw [hnew] at hthere
        contradiction
    rcases k with _ | k
    · obtain rfl : table.next = r := by simpa using hk
      refine .inr ⟨table.get?_next, h.present _ hthere, fun k' hk' => ?_⟩
      rcases k' with _ | k'
      · rfl
      · exact absurd hk' (honly k')
    · rcases h.held k r hk with hold | ⟨hnew, hr, hk'⟩
      · exact .inl hold
      · have hne : r ≠ table.next := by
          rintro rfl
          exact honly k hk
        rw [Table.get?_insert, if_neg hne] at hnew
        refine .inr ⟨hnew, hr, fun k' hk'' => ?_⟩
        rcases k' with _ | k'
        · have heq : table.next = r := by simpa using hk''
          exact absurd heq.symm hne
        · exact congrArg _ (hk' k' hk'')

/-- The first of some slots stays as it is, and the others are rearranged. -/
theorem rearranges_cons_same {slot : Slot} {rest rest' : List Slot} {table table' : Stacks}
    (hslot : ∀ r, slot = some r → (table.get? r).isSome) (h : Rearranges rest table rest' table') :
    Rearranges (slot :: rest) table (slot :: rest') table' where
  inBounds := h.inBounds
  present := h.present
  elsewhere r hr := h.elsewhere r fun hr' => hr (List.mem_cons_of_mem _ hr')
  held k r hk := by
    rcases k with _ | k
    · exact .inl hk
    · rcases h.held k r hk with hold | ⟨hnew, hr, hk'⟩
      · exact .inl hold
      · refine .inr ⟨hnew, hr, fun k' hk'' => ?_⟩
        rcases k' with _ | k'
        · have := hslot r (by simpa using hk'')
          rw [hnew] at this
          contradiction
        · exact congrArg _ (hk' k' hk'')

theorem rearranges_place {slots : List Slot} {n : UInt8} {table : Stacks}
    (hslots : ∀ r, some r ∈ slots → (table.get? r).isSome) :
    Rearranges slots table (place m slots n table).1 (place m slots n table).2.2 := by
  induction slots generalizing n table with
  | nil => exact .of_subset fun _ _ => id
  | cons slot rest ih =>
    have hrest (r) (hr : some r ∈ rest) := hslots r (List.mem_cons_of_mem _ hr)
    rcases slot with _ | r
    · rw [place]
      split
      · exact .of_subset fun _ _ => id
      · refine rearranges_cons_new (ItemStack.inBounds_make _ m) hrest (ih fun r hr => ?_)
        obtain ⟨a, ha⟩ := Option.isSome_iff_exists.1 (hrest r hr)
        exact Option.isSome_iff_exists.2 ⟨a, table.get?_insert_of_get? ha⟩
    · refine rearranges_cons_same (fun q hq => ?_) (ih hrest)
      exact hslots q (hq ▸ List.mem_cons_self)

/-- Placing leaves the stacks that there are alone. -/
theorem get?_place {slots : List Slot} {n : UInt8} {table : Stacks} {r : Ref .stack}
    {s : ItemStack} (hs : table.get? r = some s) : (place m slots n table).2.2.get? r = some s := by
  induction slots generalizing n table with
  | nil => exact hs
  | cons slot rest ih =>
    rcases slot with _ | q
    · rw [place]
      split
      · exact hs
      · exact ih (table.get?_insert_of_get? hs)
    · exact ih hs

/-- A stack that is put into a slot holds items if there are any. -/
theorem count_make_min_ne_zero {n : UInt8} (hn : n ≠ 0) :
    (ItemStack.make m (min n m.maxStackSize)).count ≠ 0 := by
  rw [ne_eq, ItemStack.count_make_eq_zero_iff]
  exact fun hzero => hn ((ItemStack.count_make_eq_zero_iff n m).1 hzero)

theorem stocked_place {slots : List Slot} {n : UInt8} {table : Stacks}
    (hslots : ∀ r, some r ∈ slots → (table.get? r).isSome) (h : Stocked slots table) :
    Stocked (place m slots n table).1 (place m slots n table).2.2 := by
  induction slots generalizing n table with
  | nil => exact h
  | cons slot rest ih =>
    have hrest (r) (hr : some r ∈ rest) := hslots r (List.mem_cons_of_mem _ hr)
    rcases slot with _ | r
    · rw [place]
      split
      · exact h
      · rename_i hn
        -- The stacks of the other slots were there before the new one.
        have hold (r) (hr : some r ∈ rest) (s : ItemStack) :
            (table.insert s).get? r = table.get? r := by
          obtain ⟨a, ha⟩ := Option.isSome_iff_exists.1 (hrest r hr)
          rw [ha, table.get?_insert_of_get? ha]
        intro r hr s hs
        rcases List.mem_cons.1 hr with heq | hr
        · obtain rfl := Option.some.inj heq
          rw [get?_place m (table.get?_insert_self _)] at hs
          exact Option.some.inj hs ▸ count_make_min_ne_zero m hn
        · refine ih (fun r hr => ?_) (fun r hr s hs => ?_) r hr s hs
          · rw [hold r hr]
            exact hrest r hr
          · rw [hold r hr] at hs
            exact h r (List.mem_cons_of_mem _ hr) s hs
    · have hhead : some r ∈ some r :: rest := List.mem_cons_self
      intro q hq s hs
      rw [place] at hq hs
      rcases List.mem_cons.1 hq with heq | hq
      · obtain rfl := Option.some.inj heq
        obtain ⟨a, ha⟩ := Option.isSome_iff_exists.1 (hslots q hhead)
        rw [get?_place m ha] at hs
        exact Option.some.inj hs ▸ h q hhead a ha
      · exact ih hrest (fun r hr => h r (List.mem_cons_of_mem _ hr)) q hq s hs

/-! ## Adding -/

variable {i : Inventory} {n : UInt8} {table : Stacks}

theorem rearranges_add (hslots : ∀ r, some r ∈ i.slots → (table.get? r).isSome) :
    Rearranges i.slots table (i.add m n table).1.slots (i.add m n table).2.2 := by
  have hfill := rearranges_fill m i.slots n table
  exact hfill.trans (rearranges_place m fun r hr => hfill.present r (hslots r hr))

/-- Adding leaves no slot with a stack without items. -/
theorem stocked_add (ht : Stacks.InBounds table)
    (hslots : ∀ r, some r ∈ i.slots → (table.get? r).isSome) (h : Stocked i.slots table) :
    Stocked (i.add m n table).1.slots (i.add m n table).2.2 := by
  refine stocked_place m (fun r hr => (rearranges_fill m i.slots n table).present r (hslots r hr))
    fun r hr s hs => ?_
  obtain ⟨a, ha⟩ := Option.isSome_iff_exists.1 (hslots r hr)
  have hfilled : ∃ s', (fill m i.slots n table).2.get? r = some s' ∧
      a.count.toNat ≤ s'.count.toNat := le_count_fill m ht ha
  obtain ⟨s', hs', hle⟩ := hfilled
  obtain rfl := Option.some.inj (hs'.symm.trans hs)
  have hpos : a.count.toNat ≠ 0 := fun hzero => h r hr a ha (UInt8.toNat_inj.1 hzero)
  intro hzero
  rw [hzero] at hle
  exact hpos (Nat.le_zero.1 hle)

/-! ## Removing -/

/-- The stack in the first of some slots is changed and may leave the slot, and the others are
    rearranged afterwards. -/
theorem rearranges_cons_modify {r : Ref .stack} {slot : Slot} {rest rest' : List Slot}
    {table' : Stacks} {f : ItemStack → ItemStack} (hslot : ∀ q, slot = some q → q = r)
    (hr : (table.get? r).isSome)
    (hf : Stacks.InBounds table → ∀ s, table.get? r = some s → (f s).InBounds)
    (h : Rearranges rest (table.modify r f) rest' table') :
    Rearranges (some r :: rest) table (slot :: rest') table' := by
  have hthere (q : Ref .stack) : ((table.modify r f).get? q).isSome = (table.get? q).isSome := by
    rw [Table.get?_modify]
    split
    · rw [Option.isSome_map]
    · rfl
  refine ⟨fun ht => ?inBounds, fun q hq => ?present, fun q hq s hs => ?elsewhere,
    fun k q hk => ?held⟩
  case inBounds => exact h.inBounds (ht.modify (hf ht))
  case present => exact h.present q (by rwa [hthere])
  case elsewhere =>
    rw [List.mem_cons, not_or] at hq
    refine h.elsewhere q hq.2 s ?_
    rwa [Table.get?_modify, if_neg fun heq => hq.1 (congrArg some heq)]
  case held =>
    rcases k with _ | k
    · have heq : slot = some q := by simpa using hk
      exact .inl (by rw [hslot q heq]; rfl)
    · rcases h.held k q hk with hold | ⟨hnew, hq, hk'⟩
      · exact .inl hold
      · have hnone : table.get? q = none := by
          rw [← Option.not_isSome_iff_eq_none, ← hthere, hnew]
          simp
        refine .inr ⟨hnone, hq, fun k' hk'' => ?_⟩
        rcases k' with _ | k'
        · have heq : slot = some q := by simpa using hk''
          rw [← hslot q heq, hnone] at hr
          contradiction
        · exact congrArg _ (hk' k' hk'')

theorem rearranges_drain {slots : List Slot} {n : UInt32} {table : Stacks}
    (hslots : ∀ r, some r ∈ slots → (table.get? r).isSome) :
    Rearranges slots table (drain m slots n table).1 (drain m slots n table).2.2 := by
  induction slots generalizing n table with
  | nil => exact .of_subset fun _ _ => id
  | cons slot rest ih =>
    have hrest (r) (hr : some r ∈ rest) := hslots r (List.mem_cons_of_mem _ hr)
    rcases slot with _ | r
    · exact rearranges_cons_same (fun q hq => by contradiction) (ih hrest)
    · have hr := hslots r List.mem_cons_self
      have hsame : Rearranges (some r :: rest) table (some r :: (drain m rest n table).1)
          (drain m rest n table).2.2 :=
        rearranges_cons_same (fun q hq => Option.some.inj hq ▸ hr) (ih hrest)
      rw [drain]
      split
      · split
        · rename_i s hs hn
          refine rearranges_cons_modify (fun q hq => ?_) hr (fun ht s' hs' => ?_)
            (ih fun q hq => ?_)
          · exact (Option.some.inj (Option.ite_none_left_eq_some.1 hq).2).symm
          · exact (ht r s hs).remove _
          · rw [Table.get?_modify]
            split
            · rw [Option.isSome_map]
              exact hrest q hq
            · exact hrest q hq
        · exact hsame
      · exact hsame

/-- Removing leaves no slot with a stack without items, if no other slot has the stack. -/
theorem stocked_drain {slots : List Slot} {n : UInt32} {table : Stacks}
    (hslots : ∀ r, some r ∈ slots → (table.get? r).isSome) (hapart : Apart slots)
    (h : Stocked slots table) :
    Stocked (drain m slots n table).1 (drain m slots n table).2.2 := by
  induction slots generalizing n table with
  | nil => exact h
  | cons slot rest ih =>
    have hrest (r) (hr : some r ∈ rest) := hslots r (List.mem_cons_of_mem _ hr)
    have hstocked : Stocked rest table := fun r hr => h r (List.mem_cons_of_mem _ hr)
    obtain ⟨hfirst, hothers⟩ := List.pairwise_cons.1 hapart
    rcases slot with _ | r
    · intro q hq
      rcases List.mem_cons.1 hq with heq | hq
      · contradiction
      · exact ih hrest hothers hstocked q hq
    · have hnot : some r ∉ rest := by
        intro hr
        have := hfirst _ hr rfl
        contradiction
      obtain ⟨a, ha⟩ := Option.isSome_iff_exists.1 (hslots r List.mem_cons_self)
      have hsame : Stocked (some r :: (drain m rest n table).1) (drain m rest n table).2.2 := by
        intro q hq s hs
        rcases List.mem_cons.1 hq with heq | hq
        · obtain rfl := Option.some.inj heq
          rw [(rearranges_drain m hrest).elsewhere q hnot a ha] at hs
          exact Option.some.inj hs ▸ h q List.mem_cons_self a ha
        · exact ih hrest hothers hstocked q hq s hs
      rw [drain]
      split
      · split
        · rename_i s hs hn
          -- The stacks in the other slots are not the one that items are taken from.
          have hother (f : ItemStack → ItemStack) (q) (hq : some q ∈ rest) :
              (table.modify r f).get? q = table.get? q := by
            rw [Table.get?_modify, if_neg]
            rintro rfl
            exact hnot hq
          intro q hq s' hs'
          rcases List.mem_cons.1 hq with heq | hq
          · obtain ⟨hcount, heq⟩ := Option.ite_none_left_eq_some.1 heq.symm
            obtain rfl := Option.some.inj heq
            rw [(rearranges_drain m fun q hq => by rw [hother _ q hq]; exact hrest q hq).elsewhere _
              hnot _ (by rw [Table.get?_modify, if_pos rfl, hs]; rfl)] at hs'
            exact Option.some.inj hs' ▸ hcount
          · refine ih (fun q hq => ?_) hothers (fun q hq s hs => ?_) q hq s' hs'
            · rw [hother _ q hq]
              exact hrest q hq
            · rw [hother _ q hq] at hs
              exact hstocked q hq s hs
        · exact hsame
      · exact hsame

end Inventory

end Chainwalk
