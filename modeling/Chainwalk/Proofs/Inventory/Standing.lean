import Chainwalk.Proofs.Inventory.Slots
import Chainwalk.Proofs.Realm.Along
import Chainwalk.Realm.Basic

/-!
# Stacks in inventories

A stack *stands* in a slot of an inventory. A realm is *orderly* if every stack that stands in a
slot is there, and stands in no other slot, and no stack holds more items than there may be; it is
*stocked* if every stack that stands in a slot holds items. Because a stack stands in one slot only,
whatever is done to the slots of one inventory leaves those of all others alone.

* `Realm.Orderly.change`, `Realm.Stocked.change`: what another arrangement of one inventory keeps;
* `Realm.KeepsStock`: a realm that is orderly stays so, and then one that is stocked stays so;
* `Realm.keepsStock_addItems` to `Realm.keepsStock_newStack`: the changes that keep it;
* `Realm.Stocked.stored_iff`, `Realm.Stocked.recounted_iff`: those that may not, a new stack in a
  slot and another count of a stack.
-/

namespace Chainwalk

namespace Realm

/-- Whether a stack stands in a slot of an inventory. -/
def Stands (realm : Realm) (ref : Ref .stack) (r : Ref .inventory) (k : Nat) : Prop :=
  ∃ i, realm.inventories.get? r = some i ∧ i.slots[k]? = some (some ref)

/-- Inventories and stacks as they should be. -/
structure Orderly (realm : Realm) : Prop where
  inBounds : Stacks.InBounds realm.itemStacks
  present : ∀ ref r k, realm.Stands ref r k → (realm.itemStacks.get? ref).isSome
  apart : ∀ ref r k r' k', realm.Stands ref r k → realm.Stands ref r' k' → r = r' ∧ k = k'

/-- Whether every stack that stands in a slot holds items. -/
def Stocked (realm : Realm) : Prop :=
  ∀ r i, realm.inventories.get? r = some i → Chainwalk.Stocked i.slots realm.itemStacks

/-- The realm with an inventory arranged in another way, and other stacks. -/
def arranged (realm : Realm) (r : Ref .inventory) (f : Inventory → Inventory) (table : Stacks) :
    Realm :=
  { realm with itemStacks := table, inventories := realm.inventories.modify r f }

variable {realm : Realm} {r : Ref .inventory} {i : Inventory} {f : Inventory → Inventory}
  {table : Stacks}

/-! ## Orderly realms -/

theorem Orderly.present_of_mem (h : realm.Orderly) (hi : realm.inventories.get? r = some i) :
    ∀ ref, some ref ∈ i.slots → (realm.itemStacks.get? ref).isSome := by
  intro ref href
  obtain ⟨k, hk⟩ := List.mem_iff_getElem?.1 href
  exact h.present ref r k ⟨i, hi, hk⟩

theorem Orderly.apart_slots (h : realm.Orderly) (hi : realm.inventories.get? r = some i) :
    Apart i.slots := by
  refine List.pairwise_iff_getElem.2 fun j k hj hk hlt heq => ?_
  rcases hslot : i.slots[j] with _ | ref
  · rfl
  · have hj' : i.slots[j]? = some (some ref) := by rw [List.getElem?_eq_getElem hj, hslot]
    have hk' : i.slots[k]? = some (some ref) := by rw [List.getElem?_eq_getElem hk, ← heq, hslot]
    obtain ⟨-, rfl⟩ := h.apart ref r j r k ⟨i, hi, hj'⟩ ⟨i, hi, hk'⟩
    exact absurd hlt (lt_irrefl _)

/-! ## Another arrangement of one inventory -/

/-- Where a stack stands after one inventory has been arranged in another way. -/
theorem stands_arranged_iff {ref : Ref .stack} {q : Ref .inventory} {k : Nat} :
    (realm.arranged r f table).Stands ref q k ↔
      ∃ i, realm.inventories.get? q = some i ∧
        (if q = r then f i else i).slots[k]? = some (some ref) := by
  rw [Stands, arranged]
  simp only [Table.get?_modify]
  split
  · simp
  · rfl

/-- Stacks that come into a slot have stood nowhere, are there, and come into no other slot. -/
theorem Orderly.change (h : realm.Orderly) (hin : Stacks.InBounds table)
    (hpresent : ∀ ref, (realm.itemStacks.get? ref).isSome → (table.get? ref).isSome)
    (hheld : ∀ i, realm.inventories.get? r = some i → ∀ (k : Nat) ref,
      (f i).slots[k]? = some (some ref) → i.slots[k]? = some (some ref) ∨
        (∀ q j, ¬realm.Stands ref q j) ∧ (table.get? ref).isSome ∧
          ∀ k' : Nat, (f i).slots[k']? = some (some ref) → k' = k) :
    (realm.arranged r f table).Orderly := by
  -- A stack stands where it has stood, or it is new in the inventory.
  have hcases (ref q k) (hs : (realm.arranged r f table).Stands ref q k) :
      realm.Stands ref q k ∨ q = r ∧ (∀ q j, ¬realm.Stands ref q j) ∧ (table.get? ref).isSome ∧
        ∀ k', (realm.arranged r f table).Stands ref r k' → k' = k := by
    obtain ⟨i, hi, hk⟩ := stands_arranged_iff.1 hs
    split at hk
    · rename_i heq
      subst heq
      rcases hheld i hi k ref hk with hold | ⟨hnowhere, hthere, honly⟩
      · exact .inl ⟨i, hi, hold⟩
      · refine .inr ⟨rfl, hnowhere, hthere, fun k' hk' => ?_⟩
        obtain ⟨i', hi', hk'⟩ := stands_arranged_iff.1 hk'
        obtain rfl := Option.some.inj (hi.symm.trans hi')
        rw [if_pos rfl] at hk'
        exact honly k' hk'
    · exact .inl ⟨i, hi, hk⟩
  refine ⟨hin, fun ref q k hs => ?present, fun ref q k q' k' hs hs' => ?apart⟩
  case present =>
    rcases hcases ref q k hs with hold | ⟨-, -, hthere, -⟩
    · exact hpresent ref (h.present ref q k hold)
    · exact hthere
  case apart =>
    rcases hcases ref q k hs with hold | ⟨rfl, hnowhere, -, honly⟩
    · rcases hcases ref q' k' hs' with hold' | ⟨-, hnowhere, -⟩
      · exact h.apart ref q k q' k' hold hold'
      · exact absurd hold (hnowhere q k)
    · rcases hcases ref q' k' hs' with hold' | ⟨rfl, -⟩
      · exact absurd hold' (hnowhere q' k')
      · exact ⟨rfl, (honly k' hs').symm⟩

/-- The stacks of the other inventories stay as they are. -/
theorem Stocked.change (hs : realm.Stocked) (h : realm.Orderly)
    (helse : ∀ ref, (∀ k, ¬realm.Stands ref r k) → ∀ s, realm.itemStacks.get? ref = some s →
      table.get? ref = some s)
    (hheld : ∀ i, realm.inventories.get? r = some i → Chainwalk.Stocked (f i).slots table) :
    (realm.arranged r f table).Stocked := by
  intro q i hi
  simp only [arranged, Table.get?_modify] at hi
  split at hi
  · rename_i heq
    subst heq
    obtain ⟨i', hi', rfl⟩ := Option.map_eq_some_iff.1 hi
    exact hheld i' hi'
  · rename_i hne
    intro ref href s hcount
    obtain ⟨k, hk⟩ := List.mem_iff_getElem?.1 href
    obtain ⟨a, ha⟩ := Option.isSome_iff_exists.1 (h.present_of_mem hi ref href)
    have hnot (j : Nat) : ¬realm.Stands ref r j := by
      intro hj
      exact hne (h.apart ref q k r j ⟨i, hi, hk⟩ hj).1
    rw [arranged, helse ref hnot a ha] at hcount
    exact Option.some.inj hcount ▸ hs q i hi ref href a ha

/-! ## Keeping the stock -/

/-- A realm that is orderly stays so, and if it is stocked then it stays so. -/
def KeepsStock (a b : Realm) : Prop := a.Orderly → b.Orderly ∧ (a.Stocked → b.Stocked)

instance : IsPreorder Realm KeepsStock where
  refl _ h := ⟨h, id⟩
  trans _ _ _ hab hbc h :=
    have ⟨hb, hstock⟩ := hab h
    have ⟨hc, hstock'⟩ := hbc hb
    ⟨hc, hstock' ∘ hstock⟩

/-- The slots of an inventory and the stacks are rearranged, and the stock of the slots is kept. -/
theorem keepsStock_of_rearranges {i' : Inventory} (hi : realm.inventories.get? r = some i)
    (hr : realm.Orderly → Rearranges i.slots realm.itemStacks i'.slots table)
    (hs : realm.Orderly → Chainwalk.Stocked i.slots realm.itemStacks →
      Chainwalk.Stocked i'.slots table) :
    KeepsStock realm (realm.arranged r (fun _ => i') table) := by
  intro h
  have hr := hr h
  refine ⟨h.change (hr.inBounds h.inBounds) hr.present fun i₀ hi₀ k ref hk => ?_, fun hstock => ?_⟩
  · obtain rfl := Option.some.inj (hi.symm.trans hi₀)
    rcases hr.held k ref hk with hold | ⟨hnew, hthere, honly⟩
    · exact .inl hold
    · refine .inr ⟨fun q j hstands => ?_, hthere, honly⟩
      have := h.present ref q j hstands
      rw [hnew] at this
      contradiction
  · refine hstock.change h (fun ref hnot s hs => hr.elsewhere ref (fun href => ?_) s hs)
      fun i₀ hi₀ => ?_
    · obtain ⟨k, hk⟩ := List.mem_iff_getElem?.1 href
      exact hnot k ⟨i, hi, hk⟩
    · obtain rfl := Option.some.inj (hi.symm.trans hi₀)
      exact hs h (hstock r i hi)

theorem run_getInventory (r : Ref .inventory) (realm : Realm) :
    getInventory r realm =
      match realm.inventories.get? r with
      | some i => (.ok i, realm)
      | none => (.error .released, realm) := by
  change (match realm.inventories.get? r with
    | some i => pure i
    | none => throw .released : RealmM Inventory) realm = _
  cases realm.inventories.get? r <;> rfl

theorem keepsStock_addItems (r : Ref .inventory) (m : Material) (n : UInt8) :
    Along KeepsStock (addItems r m n) := by
  intro realm
  rw [addItems, bind_apply, run_getInventory]
  rcases hi : realm.inventories.get? r with _ | i
  · exact refl_of KeepsStock realm
  · exact keepsStock_of_rearranges hi
      (fun h => Inventory.rearranges_add m (h.present_of_mem hi))
      fun h => Inventory.stocked_add m h.inBounds (h.present_of_mem hi)

theorem keepsStock_removeItems (r : Ref .inventory) (m : Material) (n : UInt32) :
    Along KeepsStock (removeItems r m n) := by
  intro realm
  rw [removeItems, bind_apply, run_getInventory]
  rcases hi : realm.inventories.get? r with _ | i
  · exact refl_of KeepsStock realm
  · exact keepsStock_of_rearranges hi
      (fun h => Inventory.rearranges_drain m (h.present_of_mem hi))
      fun h => Inventory.stocked_drain m (h.present_of_mem hi) (h.apart_slots hi)

/-- Emptying slots of an inventory keeps the stock. -/
theorem keepsStock_modifyInventory (r : Ref .inventory)
    (hf : ∀ i (k : Nat) ref, (f i).slots[k]? = some (some ref) → i.slots[k]? = some (some ref)) :
    Along KeepsStock (modifyInventory r f) := by
  intro realm h
  refine ⟨h.change h.inBounds (fun _ => id) fun i _ k ref hk => .inl (hf i k ref hk),
    fun hs => hs.change h (fun _ _ _ => id) fun i hi ref href => ?_⟩
  obtain ⟨k, hk⟩ := List.mem_iff_getElem?.1 href
  exact hs r i hi ref (List.mem_of_getElem? (hf i k ref hk))

theorem keepsStock_newStack {s : ItemStack} (hs : s.InBounds) :
    Along KeepsStock (newStack s) := by
  intro realm h
  have hold {ref : Ref .stack} (href : (realm.itemStacks.get? ref).isSome) :
      Table.get? (realm.itemStacks.insert s) ref = realm.itemStacks.get? ref := by
    obtain ⟨a, ha⟩ := Option.isSome_iff_exists.1 href
    rw [ha, Table.get?_insert_of_get? _ ha]
  refine ⟨⟨h.inBounds.insert hs, fun ref q k hk => ?_, h.apart⟩,
    fun hstock q i hi ref href a ha => ?_⟩
  · change (Table.get? (realm.itemStacks.insert s) ref).isSome
    have hthere := h.present ref q k hk
    rwa [hold hthere]
  · change Table.get? (realm.itemStacks.insert s) ref = some a at ha
    rw [hold (h.present_of_mem hi ref href)] at ha
    exact hstock q i hi ref href a ha

/-! ## A new stack in a slot -/

/-- The realm with a new stack that is put into a slot. -/
def stored (realm : Realm) (r : Ref .inventory) (k : Nat) (s : ItemStack) : Realm :=
  realm.arranged r (·.set k (some realm.itemStacks.next)) (realm.itemStacks.insert s)

theorem mem_slots_set {k k' : Nat} {slot : Slot} {ref : Ref .stack}
    (hk : (i.set k slot).slots[k']? = some (some ref)) :
    k' = k ∧ slot = some ref ∨ i.slots[k']? = some (some ref) := by
  rw [Inventory.set, List.getElem?_set] at hk
  split at hk
  · rename_i heq
    split at hk
    · exact .inl ⟨heq.symm, Option.some.inj hk⟩
    · contradiction
  · exact .inr hk

variable {s : ItemStack} {k : Nat}

theorem Orderly.not_stands_next (h : realm.Orderly) (q : Ref .inventory) (j : Nat) :
    ¬realm.Stands realm.itemStacks.next q j := by
  intro hstands
  have := h.present _ q j hstands
  rw [Table.get?_next] at this
  contradiction

theorem Orderly.stored (h : realm.Orderly) (hs : s.InBounds) : (realm.stored r k s).Orderly := by
  refine h.change (h.inBounds.insert hs) (fun ref href => ?_) fun i hi k' ref hk' => ?_
  · obtain ⟨a, ha⟩ := Option.isSome_iff_exists.1 href
    exact Option.isSome_iff_exists.2 ⟨a, Table.get?_insert_of_get? _ ha⟩
  · rcases mem_slots_set hk' with ⟨rfl, heq⟩ | hold
    · obtain rfl := Option.some.inj heq
      refine .inr ⟨h.not_stands_next, by simp, fun j hj => ?_⟩
      rcases mem_slots_set hj with ⟨rfl, -⟩ | hold
      · rfl
      · exact absurd ⟨i, hi, hold⟩ (h.not_stands_next r j)
    · exact .inl hold

/-- The stock is kept unless a stack without items comes into a slot. -/
theorem Stocked.stored_iff (hstock : realm.Stocked) (h : realm.Orderly) (hk : k < inventorySize) :
    (realm.stored r k s).Stocked ↔ ¬(s.count = 0 ∧ (realm.inventories.get? r).isSome) := by
  constructor
  · rintro hstock' ⟨hs, hr⟩
    obtain ⟨i, hi⟩ := Option.isSome_iff_exists.1 hr
    have hslot : some realm.itemStacks.next ∈ (i.set k (some realm.itemStacks.next)).slots :=
      List.mem_set (by rwa [i.length_slots]) _
    refine hstock' r (i.set k (some realm.itemStacks.next)) ?_ _ hslot s ?_ hs
    · simp [Realm.stored, arranged, Table.get?_modify, hi]
    · exact Table.get?_insert_self _ _
  · intro hs
    refine hstock.change h (fun ref _ a ha => Table.get?_insert_of_get? _ ha)
      fun i hi ref href a ha => ?_
    obtain ⟨k', hk'⟩ := List.mem_iff_getElem?.1 href
    rcases mem_slots_set hk' with ⟨-, heq⟩ | hold
    · obtain rfl := Option.some.inj heq
      rw [Table.get?_insert_self] at ha
      obtain rfl := Option.some.inj ha
      exact fun hzero => hs ⟨hzero, Option.isSome_iff_exists.2 ⟨i, hi⟩⟩
    · have hmem := List.mem_of_getElem? hold
      obtain ⟨b, hb⟩ := Option.isSome_iff_exists.1 (h.present_of_mem hi ref hmem)
      rw [Table.get?_insert_of_get? _ hb] at ha
      exact Option.some.inj ha ▸ hstock r i hi ref hmem b hb

/-! ## Another count of a stack -/

/-- The realm with another count of a stack. -/
def recounted (realm : Realm) (ref : Ref .stack) (n : UInt8) : Realm :=
  { realm with itemStacks := realm.itemStacks.modify ref (·.withCount n) }

variable {ref : Ref .stack} {n : UInt8}

theorem Orderly.recounted (h : realm.Orderly) : (realm.recounted ref n).Orderly := by
  refine ⟨h.inBounds.modify fun s _ => s.inBounds_withCount n, fun q r k hk => ?_, h.apart⟩
  have := h.present q r k hk
  rw [Realm.recounted, Table.get?_modify]
  split
  · rwa [Option.isSome_map]
  · exact this

/-- The stock is kept unless a stack that stands in a slot is left without items. -/
theorem Stocked.recounted_iff (hstock : realm.Stocked) (h : realm.Orderly) :
    (realm.recounted ref n).Stocked ↔ ¬(n = 0 ∧ ∃ r k, realm.Stands ref r k) := by
  constructor
  · rintro hstock' ⟨rfl, r, k, i, hi, hk⟩
    have hmem := List.mem_of_getElem? hk
    obtain ⟨s, hs⟩ := Option.isSome_iff_exists.1 (h.present_of_mem hi ref hmem)
    refine hstock' r i hi ref hmem (s.withCount 0) ?_ ((s.count_withCount_eq_zero_iff 0).2 rfl)
    rw [Realm.recounted, Table.get?_modify, if_pos rfl, hs]
    rfl
  · intro hn r i hi q hq s hs
    rw [Realm.recounted, Table.get?_modify] at hs
    split at hs
    · rename_i heq
      obtain rfl := heq
      obtain ⟨s', -, rfl⟩ := Option.map_eq_some_iff.1 hs
      obtain ⟨k, hk⟩ := List.mem_iff_getElem?.1 hq
      rw [ne_eq, s'.count_withCount_eq_zero_iff]
      exact fun hzero => hn ⟨hzero, r, k, i, hi, hk⟩
    · exact hstock r i hi q hq s hs

end Realm

end Chainwalk
