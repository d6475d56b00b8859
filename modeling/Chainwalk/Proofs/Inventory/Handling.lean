import Chainwalk.Proofs.Inventory.Standing
import Chainwalk.Proofs.Object.Shown
import Chainwalk.Proofs.Realm.Methods
import Chainwalk.Proofs.Typing.Walk

/-!
# Handling stacks and inventories

The calls of the methods that stacks and inventories have, one after another, with stacks made in
between as literals make them. Whatever is called on whatever and with whatever arguments,
inventories stay in order, and almost every call keeps the stock. There are two exceptions: setting
the amount of a stack that stands in a slot to zero or less leaves the stack in its slot without
items, and a stack without items that is put into a slot is one there too. So the slots of all
inventories hold items throughout if and only if no call is one of these.

* `Handling.keepsStock_after`: all steps but those of two methods keep the stock;
* `Handling.stocked_after_iff`: when a step keeps it;
* `Handling.holdsItems_states_iff`: when all steps do.
-/

namespace Chainwalk

open Method Act

/-! ## The two methods that may spoil the stock -/

/-- An amount that leaves no items. -/
theorem clampCount_eq_zero_iff (n : Int32) : clampCount n = 0 ↔ n ≤ 0 := by
  have hle : n ≤ 0 ↔ n.toInt ≤ 0 := Int32.le_iff_toInt_le
  have hlt : min 255 n.toInt.toNat < 256 := by omega
  rw [hle, clampCount, ← UInt8.toNat_inj, UInt8.toNat_ofNat_of_lt' hlt, UInt8.toNat_zero]
  omega

theorem run_fetchStack (r : Ref .stack) (s : Store) :
    fetchStack r s =
      match Table.get? s.realm.itemStacks r with
      | some a => (.ok a, s)
      | none => (.error (.refused .released), s) := by
  change Act.realm (fun realm => (match Table.get? realm.itemStacks r with
    | some a => pure a
    | none => throw .released : RealmM ItemStack) realm) s = _
  rw [Act.realm]
  cases Table.get? s.realm.itemStacks r <;> rfl

theorem run_slotArgument (h : Hierarchy) (tag : Nat) (n : Int32) (rest : List Value) (s : Store) :
    slotArgument h (some (.value tag (.scalar .int n)) :: rest) 0 s =
      (if 0 ≤ n ∧ n.toInt.toNat < inventorySize then .ok n.toInt.toNat
        else .error (.refused (.slotOutside n)), s) := by
  have hn : argument Int32 h (some (.value tag (.scalar .int n)) :: rest) 0 .int = .ok n :=
    argument_eq_ok_iff.2 ⟨_, rfl, rfl⟩
  simp only [slotArgument, bind_apply, Act.ofExcept, hn, Bool.and_eq_true, decide_eq_true_eq]
  split <;> rfl

namespace Method

variable (h : Hierarchy) (s : Store)

/-- Setting the amount of a stack. -/
theorem snd_invoke_setAmount (ref : Ref .stack) (tag : Nat) (n : Int32) :
    (setAmount.invoke h (.stack ref) [some (.value tag (.scalar .int n))] s).2 =
      { s with realm := s.realm.recounted ref (clampCount n) } := by
  rw [snd_invoke, if_pos]
  · rfl
  · exact obstacle?_eq_none_iff.2 ⟨h.isA_self _, .cons (h.fits_some.2 (h.isA_self _)) .nil⟩

/-- Only stacks have an amount to be set, which is an integer. -/
theorem snd_invoke_setAmount_of_ne {recv : Object} {args : List Value}
    (hne : ¬∃ ref tag n, recv = .stack ref ∧ args = [some (.value tag (.scalar .int n))]) :
    (setAmount.invoke h recv args s).2 = s := by
  rw [snd_invoke]
  split
  case isFalse => rfl
  case isTrue ho =>
    obtain ⟨v, rfl⟩ := List.length_eq_one_iff.1 (obstacle?_eq_none_iff.1 ho).2.length_eq.symm
    have hbody : setAmount.body h recv [v] s = (do
        let count ← Act.ofExcept (argument Int32 h [v] 0 .int)
        let r ← stackReceiver h recv
        Act.realm (Realm.modifyStack r (·.withCount (clampCount count)))
        return none : Act Value) s := rfl
    simp only [hbody, bind_apply, stackReceiver, Act.ofExcept]
    rcases hn : argument Int32 h [v] 0 .int with fault | n
    · rfl
    · rcases hr : receiver (Ref .stack) h recv .itemStack with fault | ref
      · rfl
      · obtain ⟨o, hv, hn⟩ := argument_eq_ok_iff.1 hn
        obtain ⟨tag, rfl⟩ := Object.shows?_int_iff.1 hn
        obtain rfl := Object.shows?_stack_iff.1 (receiver_eq_ok_iff.1 hr)
        obtain rfl := Option.some.inj hv
        exact absurd ⟨ref, tag, n, rfl, rfl⟩ hne

/-- The body of the method that puts something into a slot, for a slot that there is. -/
theorem run_setItem (r : Ref .inventory) (tag : Nat) {n : Int32}
    (hn : 0 ≤ n ∧ n.toInt.toNat < inventorySize) (w : Value) :
    setItem.body h (.inventory r) [some (.value tag (.scalar .int n)), w] s =
      (do
        let stack ←
          match w with
          | none => pure none
          | some _ => do
            let given ← fetchStack (← Act.ofExcept
              (argument (Ref .stack) h [some (.value tag (.scalar .int n)), w] 1 .itemStack))
            some <$> Act.realm (Realm.newStack (.make given.material given.count))
        Act.realm (Realm.modifyInventory r (·.set n.toInt.toNat stack))
        return none : Act Value) s := by
  have hbody : setItem.body h (.inventory r) [some (.value tag (.scalar .int n)), w] s = (do
      let slot ← slotArgument h [some (.value tag (.scalar .int n)), w] 0
      let stack ←
        match w with
        | none => pure none
        | some _ => do
          let given ← fetchStack (← Act.ofExcept
            (argument (Ref .stack) h [some (.value tag (.scalar .int n)), w] 1 .itemStack))
          some <$> Act.realm (Realm.newStack (.make given.material given.count))
      Act.realm (Realm.modifyInventory r (·.set slot stack))
      return none : Act Value) s := rfl
  rw [hbody, bind_apply, run_slotArgument, if_pos hn]

/-- Putting a stack into a slot puts a copy of it there. -/
theorem snd_invoke_setItem {r : Ref .inventory} {tag : Nat} {n : Int32} {ref : Ref .stack}
    {given : ItemStack} (hn : 0 ≤ n ∧ n.toInt.toNat < inventorySize)
    (hgiven : Table.get? s.realm.itemStacks ref = some given) :
    (setItem.invoke h (.inventory r)
      [some (.value tag (.scalar .int n)), some (.stack ref)] s).2.realm =
        s.realm.stored r n.toInt.toNat (.make given.material given.count) := by
  rw [snd_invoke, if_pos, run_setItem h s r tag hn]
  · have hstack : argument (Ref .stack) h
        [some (.value tag (.scalar .int n)), some (.stack ref)] 1 .itemStack = .ok ref :=
      argument_eq_ok_iff.2 ⟨_, rfl, rfl⟩
    simp only [hstack, bind_apply, Act.ofExcept, run_fetchStack, hgiven]
    rfl
  · exact obstacle?_eq_none_iff.2 ⟨h.isA_self _, .cons (h.fits_some.2 (h.isA_self _))
      (.cons (h.fits_some.2 (h.isA_self _)) .nil)⟩

/-- Otherwise nothing is done, or the slot is emptied. -/
theorem keepsStock_setItem {recv : Object} {args : List Value}
    (hne : ¬∃ r tag n ref given, recv = .inventory r ∧
      args = [some (.value tag (.scalar .int n)), some (.stack ref)] ∧
      (0 ≤ n ∧ n.toInt.toNat < inventorySize) ∧
      Table.get? s.realm.itemStacks ref = some given) :
    Realm.KeepsStock s.realm (setItem.invoke h recv args s).2.realm := by
  have hidle := refl_of Realm.KeepsStock s.realm
  rw [snd_invoke]
  split
  case isFalse => exact hidle
  case isTrue ho =>
    obtain ⟨hrecv, hargs⟩ := obstacle?_eq_none_iff.1 ho
    obtain ⟨v, w, rfl⟩ := List.length_eq_two.1 hargs.length_eq.symm
    rcases hr : receiver (Ref .inventory) h recv .inventory with fault | r
    · change Realm.KeepsStock _ ((inventoryReceiver h recv >>= _) s).2.realm
      rw [bind_apply, inventoryReceiver, Act.ofExcept, hr]
      exact hidle
    obtain rfl := Object.shows?_inventory_iff.1 (receiver_eq_ok_iff.1 hr)
    rcases hslot : argument Int32 h [v, w] 0 .int with fault | n
    · change Realm.KeepsStock _ ((slotArgument h [v, w] 0 >>= _) s).2.realm
      simp only [bind_apply, slotArgument, Act.ofExcept, hslot]
      exact hidle
    obtain ⟨o, hv, hn⟩ := argument_eq_ok_iff.1 hslot
    obtain ⟨tag, rfl⟩ := Object.shows?_int_iff.1 hn
    obtain rfl := Option.some.inj hv
    by_cases hn : 0 ≤ n ∧ n.toInt.toNat < inventorySize
    · rw [run_setItem h s r tag hn]
      rcases w with _ | w
      · refine Realm.keepsStock_modifyInventory r (fun i k ref hk => ?_) s.realm
        exact (Realm.mem_slots_set hk).resolve_left fun heq => by simp at heq
      rcases hw : argument (Ref .stack) h [some (.value tag (.scalar .int n)), some w] 1 .itemStack
        with fault | ref
      · simp only [bind_apply, Act.ofExcept]
        exact hidle
      obtain ⟨o, ho, hw'⟩ := argument_eq_ok_iff.1 hw
      obtain rfl := Object.shows?_stack_iff.1 hw'
      obtain rfl := Option.some.inj (Option.some.inj ho)
      rcases hgiven : Table.get? s.realm.itemStacks ref with _ | given
      · simp only [bind_apply, Act.ofExcept, run_fetchStack, hgiven]
        exact hidle
      · exact absurd ⟨r, tag, n, ref, given, rfl, rfl, hn, hgiven⟩ hne
    · change Realm.KeepsStock _
        ((slotArgument h [some (.value tag (.scalar .int n)), w] 0 >>= _) s).2.realm
      rw [bind_apply, run_slotArgument, if_neg hn]
      exact hidle

end Method

/-! ## One step -/

/-- The methods that stacks and inventories have of their own. -/
abbrev StockMethod := { m : Method // m ∈ itemStackMethods ++ inventoryMethods }

/-- A step in which stacks and inventories are handled. -/
inductive Handling
  | call (m : StockMethod) (recv : Object) (args : List Value)
  /-- A stack is made that is in no inventory, as literals make them. -/
  | make (m : Material) (n : UInt8)

namespace Handling

/-- The store after a step. What a call has done before it fails stays done. -/
def after (h : Hierarchy) (s : Store) : Handling → Store
  | call m recv args => (m.1.invoke h recv args s).2
  | make m n => (Act.realm (Realm.newStack (.make m n)) s).2

/-- The step sets the amount of a stack. -/
def Recounts (k : Handling) (ref : Ref .stack) (n : Int32) : Prop :=
  ∃ m tag, m.1 = .setAmount ∧ k = call m (.stack ref) [some (.value tag (.scalar .int n))]

/-- The step puts a copy of a stack into a slot that there is. -/
def Stores (s : Store) (k : Handling) (r : Ref .inventory) (n : Int32) (given : ItemStack) : Prop :=
  ∃ m tag ref, m.1 = .setItem ∧
    k = call m (.inventory r) [some (.value tag (.scalar .int n)), some (.stack ref)] ∧
    (0 ≤ n ∧ n.toInt.toNat < inventorySize) ∧ s.realm.itemStacks.get? ref = some given

/-- The step leaves no items in a stack that stands in a slot. -/
def Empties (s : Store) (k : Handling) : Prop :=
  ∃ ref n, k.Recounts ref n ∧ n ≤ 0 ∧ ∃ r j, s.realm.Stands ref r j

/-- The step puts a stack without items into a slot of an inventory. -/
def GivesNothing (s : Store) (k : Handling) : Prop :=
  ∃ r n given, k.Stores s r n given ∧ given.count = 0 ∧ (s.realm.inventories.get? r).isSome

variable {s : Store} {k : Handling} {r : Ref .inventory} {ref : Ref .stack} {n : Int32}
  {given : ItemStack} (h : Hierarchy)

theorem realm_after_of_recounts (hk : k.Recounts ref n) :
    (k.after h s).realm = s.realm.recounted ref (clampCount n) := by
  obtain ⟨m, tag, hm, rfl⟩ := hk
  rw [after, hm, snd_invoke_setAmount]

theorem realm_after_of_stores (hk : k.Stores s r n given) :
    (k.after h s).realm = s.realm.stored r n.toInt.toNat (.make given.material given.count) := by
  obtain ⟨m, tag, ref, hm, rfl, hn, hgiven⟩ := hk
  rw [after, hm, snd_invoke_setItem h s hn hgiven]

theorem keepsStock_clear (r : Ref .inventory) :
    Along Realm.KeepsStock (Realm.modifyInventory r fun _ => .empty) := by
  refine Realm.keepsStock_modifyInventory r fun i k ref hk => ?_
  rw [Inventory.empty, List.getElem?_replicate, ite_eq_iff] at hk
  simp at hk

/-- Whatever else is done keeps the stock. -/
theorem keepsStock_after (hr : ¬∃ ref n, k.Recounts ref n)
    (hs : ¬∃ r n given, k.Stores s r n given) :
    Realm.KeepsStock s.realm (k.after h s).realm := by
  rcases k with ⟨⟨m, hm⟩, recv, args⟩ | ⟨m, n⟩
  · rcases List.mem_append.1 hm with hstack | hinventory
    · rcases along_itemStackMethods (R := Realm.KeepsStock) m hstack with rfl | halong
      · rw [after, snd_invoke_setAmount_of_ne]
        · exact refl_of Realm.KeepsStock s.realm
        · rintro ⟨ref, tag, n, rfl, rfl⟩
          exact hr ⟨ref, n, _, tag, rfl, rfl⟩
      · exact halong.invoke h recv args s
    · rcases along_inventoryMethods Realm.keepsStock_addItems Realm.keepsStock_removeItems
        keepsStock_clear m hinventory with rfl | halong
      · refine keepsStock_setItem h s ?_
        rintro ⟨r, tag, n, ref, given, rfl, rfl, hn, hgiven⟩
        exact hs ⟨r, n, given, _, tag, ref, rfl, rfl, hn, hgiven⟩
      · exact halong.invoke h recv args s
  · exact Realm.keepsStock_newStack (ItemStack.inBounds_make n m) s.realm

/-- Inventories stay in order, whatever is done. -/
theorem orderly_after (ho : s.realm.Orderly) (k : Handling) : (k.after h s).realm.Orderly := by
  by_cases hr : ∃ ref n, k.Recounts ref n
  · obtain ⟨ref, n, hr⟩ := hr
    rw [realm_after_of_recounts h hr]
    exact ho.recounted
  · by_cases hs : ∃ r n given, k.Stores s r n given
    · obtain ⟨r, n, given, hs⟩ := hs
      rw [realm_after_of_stores h hs]
      exact ho.stored (ItemStack.inBounds_make given.count given.material)
    · exact (keepsStock_after h hr hs ho).1

theorem Recounts.unique (hk : k.Recounts ref n) {ref' : Ref .stack} {n' : Int32}
    (hk' : k.Recounts ref' n') : ref = ref' ∧ n = n' := by
  obtain ⟨m, tag, -, rfl⟩ := hk
  obtain ⟨m', tag', -, heq⟩ := hk'
  cases heq
  exact ⟨rfl, rfl⟩

theorem Recounts.not_stores (hk : k.Recounts ref n) {n' : Int32} : ¬k.Stores s r n' given := by
  rintro ⟨m', tag', ref', -, heq, -⟩
  obtain ⟨m, tag, -, rfl⟩ := hk
  cases heq

theorem Stores.unique (hk : k.Stores s r n given) {r' : Ref .inventory} {n' : Int32}
    {given' : ItemStack} (hk' : k.Stores s r' n' given') : r = r' ∧ given = given' := by
  obtain ⟨m, tag, ref, -, rfl, -, hgiven⟩ := hk
  obtain ⟨m', tag', ref', -, heq, -, hgiven'⟩ := hk'
  cases heq
  exact ⟨rfl, Option.some.inj (hgiven.symm.trans hgiven')⟩

theorem Recounts.empties_iff (hk : k.Recounts ref n) :
    k.Empties s ↔ n ≤ 0 ∧ ∃ r j, s.realm.Stands ref r j := by
  constructor
  · rintro ⟨ref', n', hk', hstands⟩
    obtain ⟨rfl, rfl⟩ := hk.unique hk'
    exact hstands
  · exact fun hstands => ⟨ref, n, hk, hstands⟩

theorem Stores.givesNothing_iff (hk : k.Stores s r n given) :
    k.GivesNothing s ↔ given.count = 0 ∧ (s.realm.inventories.get? r).isSome := by
  constructor
  · rintro ⟨r', n', given', hk', hcount⟩
    obtain ⟨rfl, rfl⟩ := hk.unique hk'
    exact hcount
  · exact fun hcount => ⟨r, n, given, hk, hcount⟩

/-- The stock is kept by all steps but those that leave a slot with a stack without items. -/
theorem stocked_after_iff (ho : s.realm.Orderly) (hstock : s.realm.Stocked) (k : Handling) :
    (k.after h s).realm.Stocked ↔ ¬k.Empties s ∧ ¬k.GivesNothing s := by
  by_cases hr : ∃ ref n, k.Recounts ref n
  · obtain ⟨ref, n, hr⟩ := hr
    have hgive : ¬k.GivesNothing s := fun ⟨r, n, given, hk, _⟩ => hr.not_stores hk
    rw [realm_after_of_recounts h hr, hstock.recounted_iff ho, clampCount_eq_zero_iff,
      hr.empties_iff, and_iff_left hgive]
  · have hempty : ¬k.Empties s := fun ⟨ref, n, hk, _⟩ => hr ⟨ref, n, hk⟩
    by_cases hs : ∃ r n given, k.Stores s r n given
    · obtain ⟨r, n, given, hs⟩ := hs
      have hn : n.toInt.toNat < inventorySize := by
        obtain ⟨m, tag, ref, -, -, hn, -⟩ := hs
        exact hn.2
      rw [realm_after_of_stores h hs, hstock.stored_iff ho hn, ItemStack.count_make_eq_zero_iff,
        hs.givesNothing_iff, and_iff_right hempty]
    · have hgive : ¬k.GivesNothing s := fun ⟨r, n, given, hk, _⟩ => hs ⟨r, n, given, hk⟩
      exact iff_of_true ((keepsStock_after h hr hs ho).2 hstock) ⟨hempty, hgive⟩

/-! ## All steps -/

/-- The stores that the steps lead through, from the first to the last one. -/
def states (h : Hierarchy) : List Handling → Store → List Store
  | [], s => [s]
  | k :: ks, s => s :: states h ks (k.after h s)

/-- The steps, each with the store in which it is done. -/
def steps (h : Hierarchy) : List Handling → Store → List (Handling × Store)
  | [], _ => []
  | k :: ks, s => (k, s) :: steps h ks (k.after h s)

theorem orderly_states (ho : s.realm.Orderly) (ks : List Handling) :
    ∀ t ∈ states h ks s, t.realm.Orderly := by
  induction ks generalizing s with
  | nil => exact List.forall_mem_singleton.2 ho
  | cons k ks ih => exact List.forall_mem_cons.2 ⟨ho, ih (orderly_after h ho k)⟩

theorem mem_states_self (ks : List Handling) (s : Store) : s ∈ states h ks s := by
  cases ks <;> exact List.mem_cons_self

/-- The first step that spoils the stock decides; of the steps after it nothing need be known. -/
theorem stocked_states_iff (ho : s.realm.Orderly) (hstock : s.realm.Stocked) (ks : List Handling) :
    (∀ t ∈ states h ks s, t.realm.Stocked) ↔
      ∀ p ∈ steps h ks s, ¬p.1.Empties p.2 ∧ ¬p.1.GivesNothing p.2 := by
  induction ks generalizing s with
  | nil => simpa [states, steps] using hstock
  | cons k ks ih =>
    rw [states, steps, List.forall_mem_cons, List.forall_mem_cons, and_iff_right hstock,
      ← stocked_after_iff h ho hstock k]
    constructor
    · intro hall
      have hnext := hall _ (mem_states_self h ks _)
      exact ⟨hnext, (ih (orderly_after h ho k) hnext).1 hall⟩
    · rintro ⟨hnext, hrest⟩
      exact (ih (orderly_after h ho k) hnext).2 hrest

end Handling

/-! ## What slots hold -/

namespace Realm

/-- How many items a slot holds. -/
def itemsIn (realm : Realm) (slot : Slot) : Nat :=
  (slot.bind realm.itemStacks.get?).elim 0 fun s => s.count.toNat

/-- Whether the slots of all inventories hold items, in so far as they hold a stack, and no more of
    them than there may be. -/
def HoldsItems (realm : Realm) : Prop :=
  ∀ r i, realm.inventories.get? r = some i → ∀ ref, some ref ∈ i.slots →
    ∃ s, realm.itemStacks.get? ref = some s ∧ 1 ≤ s.count ∧ s.count ≤ s.maxSize

/-- Whether all inventories are new. The stacks there are then stand nowhere. -/
structure Fresh (realm : Realm) : Prop where
  inBounds : Stacks.InBounds realm.itemStacks
  empty : ∀ r i, realm.inventories.get? r = some i → i = .empty

variable {realm : Realm} {r : Ref .inventory} {i : Inventory}

theorem Fresh.not_mem (h : realm.Fresh) (hi : realm.inventories.get? r = some i)
    (ref : Ref .stack) : some ref ∉ i.slots := by
  obtain rfl := h.empty r i hi
  simp [Inventory.empty]

theorem Fresh.orderly (h : realm.Fresh) : realm.Orderly := by
  have hnot (ref r k) : ¬realm.Stands ref r k := by
    rintro ⟨i, hi, hk⟩
    exact h.not_mem hi ref (List.mem_of_getElem? hk)
  exact ⟨h.inBounds, fun ref r k hk => absurd hk (hnot ref r k),
    fun ref r k _ _ hk => absurd hk (hnot ref r k)⟩

theorem Fresh.stocked (h : realm.Fresh) : realm.Stocked :=
  fun _ _ hi ref href => absurd href (h.not_mem hi ref)

theorem one_le_iff_toNat_pos {n : UInt8} : 1 ≤ n ↔ 0 < n.toNat :=
  UInt8.le_iff_toNat_le

theorem Orderly.holdsItems_iff (h : realm.Orderly) : realm.HoldsItems ↔ realm.Stocked := by
  constructor
  · intro hholds r i hi ref href s hs hzero
    obtain ⟨s', hs', hle, -⟩ := hholds r i hi ref href
    obtain rfl := Option.some.inj (hs.symm.trans hs')
    rw [hzero] at hle
    contradiction
  · intro hstock r i hi ref href
    obtain ⟨s, hs⟩ := Option.isSome_iff_exists.1 (h.present_of_mem hi ref href)
    have hcount := hstock r i hi ref href s hs
    refine ⟨s, hs, ?_, h.inBounds ref s hs⟩
    rw [ne_eq, ← UInt8.toNat_inj, UInt8.toNat_zero] at hcount
    exact one_le_iff_toNat_pos.2 (Nat.pos_of_ne_zero hcount)

/-- Where slots hold items, a slot is empty exactly if there are no items in it. -/
theorem HoldsItems.isNone_iff (h : realm.HoldsItems) (hi : realm.inventories.get? r = some i)
    {slot : Slot} (hslot : slot ∈ i.slots) : slot.isNone ↔ realm.itemsIn slot = 0 := by
  rcases slot with _ | ref
  · simp [itemsIn]
  · obtain ⟨s, hs, hle, -⟩ := h r i hi ref hslot
    have hpos : 1 ≤ s.count.toNat := UInt8.le_iff_toNat_le.1 hle
    simp [itemsIn, hs]
    omega

/-- Whether what an inventory says of its slots is what they hold. -/
structure TellsItems (realm : Realm) (i : Inventory) : Prop where
  firstEmpty : i.firstEmpty? = i.slots.findIdx? fun slot => realm.itemsIn slot = 0
  isEmpty : i.isEmpty ↔ ∀ slot ∈ i.slots, realm.itemsIn slot = 0
  contents : ∀ k ref, (k, ref) ∈ i.contents ↔
    i.slots[k]? = some (some ref) ∧ 0 < realm.itemsIn (some ref)

theorem mem_contents_iff {k : Nat} {ref : Ref .stack} :
    (k, ref) ∈ i.contents ↔ i.slots[k]? = some (some ref) := by
  simp [Inventory.contents, List.mem_zipIdx_iff_getElem?]

theorem findIdx?_congr {α : Type} {p q : α → Bool} {l : List α} (h : ∀ a ∈ l, p a = q a) :
    l.findIdx? p = l.findIdx? q := by
  induction l with
  | nil => rfl
  | cons a l ih =>
    rw [List.findIdx?_cons, List.findIdx?_cons, h a List.mem_cons_self,
      ih fun b hb => h b (List.mem_cons_of_mem _ hb)]

/-- Inventories tell what they hold if and only if their slots hold items. -/
theorem Orderly.holdsItems_iff_tellsItems (h : realm.Orderly) :
    realm.HoldsItems ↔ ∀ r i, realm.inventories.get? r = some i → realm.TellsItems i := by
  constructor
  · intro hholds r i hi
    have hnone (slot) (hslot : slot ∈ i.slots) := hholds.isNone_iff hi hslot
    refine ⟨?firstEmpty, ?isEmpty, fun k ref => ?contents⟩
    case firstEmpty =>
      refine findIdx?_congr fun slot hslot => Bool.eq_iff_iff.2 ?_
      rw [hnone slot hslot, decide_eq_true_iff]
    case isEmpty =>
      rw [Inventory.isEmpty, List.all_eq_true]
      exact forall₂_congr hnone
    case contents =>
      rw [mem_contents_iff, iff_self_and]
      intro hk
      have := hnone _ (List.mem_of_getElem? hk)
      simp at this
      omega
  · intro htells r i hi ref href
    obtain ⟨k, hk⟩ := List.mem_iff_getElem?.1 href
    obtain ⟨s, hs⟩ := Option.isSome_iff_exists.1 (h.present_of_mem hi ref href)
    have hpos := (((htells r i hi).contents k ref).1 (mem_contents_iff.2 hk)).2
    refine ⟨s, hs, ?_, h.inBounds ref s hs⟩
    rw [itemsIn, Option.bind_some, hs] at hpos
    exact one_le_iff_toNat_pos.2 hpos

end Realm

/-- Whatever is done with new inventories, they stay in order, and their slots hold items
    throughout exactly if no step leaves a slot with a stack without items. -/
theorem Handling.holdsItems_states_iff (h : Hierarchy) {s : Store} (hs : s.realm.Fresh)
    (ks : List Handling) :
    (∀ t ∈ states h ks s, t.realm.Orderly ∧
        (t.realm.HoldsItems ↔
          ∀ r i, t.realm.inventories.get? r = some i → t.realm.TellsItems i)) ∧
      ((∀ t ∈ states h ks s, t.realm.HoldsItems) ↔
        ∀ p ∈ steps h ks s, ¬p.1.Empties p.2 ∧ ¬p.1.GivesNothing p.2) := by
  have horder := orderly_states h hs.orderly ks
  refine ⟨fun t ht => ⟨horder t ht, (horder t ht).holdsItems_iff_tellsItems⟩, ?_⟩
  rw [← stocked_states_iff h hs.orderly hs.stocked ks]
  exact forall₂_congr fun t ht => (horder t ht).holdsItems_iff

/-- A stack of one item is made and put into a new inventory; then the amount of the stack in the
    slot is set to zero. -/
def Handling.spoiling : List Handling :=
  [ make .stone 1,
    call ⟨inventoryMethods.get ⟨3, by decide⟩, List.mem_append_right _ (List.get_mem _ _)⟩
      (.inventory ⟨0⟩) [some (.stack ⟨0⟩)],
    call ⟨setAmount, List.mem_append_left _ (List.get_mem _ _)⟩ (.stack ⟨1⟩)
      [some (.value 0 (.scalar .int 0))] ]

/-- The last step spoils the stock. -/
theorem Handling.spoiling_spoils :
    ¬∀ t ∈ states .builtins spoiling (Act.realm Realm.newInventory Store.empty).2,
      t.realm.HoldsItems := by
  have hfresh : (Act.realm Realm.newInventory Store.empty).2.realm.Fresh := by
    refine ⟨fun ref s hs => ?_, fun r i hi => ?_⟩
    · have := (Table.get?_empty ref).symm.trans hs
      contradiction
    · change (Table.empty.insert Inventory.empty).get? r = some i at hi
      rw [Table.get?_insert] at hi
      split at hi
      · exact (Option.some.inj hi).symm
      · simp at hi
  intro hall
  have hslot : (((spoiling.take 2).foldl (after .builtins)
      (Act.realm Realm.newInventory Store.empty).2).realm.inventories.get? ⟨0⟩).bind
        (·.slots[0]?) = some (some ⟨1⟩) := by cbv
  obtain ⟨i, hi, hslot⟩ := Option.bind_eq_some_iff.1 hslot
  have hsteps := (holdsItems_states_iff .builtins hfresh spoiling).2.1 hall
  exact (hsteps _ (.tail _ (.tail _ (.head _)))).1
    ⟨⟨1⟩, 0, ⟨_, 0, rfl, rfl⟩, by decide, ⟨0⟩, 0, i, hi, hslot⟩

end Chainwalk
