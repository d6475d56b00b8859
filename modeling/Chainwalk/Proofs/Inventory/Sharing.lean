import Chainwalk.Proofs.Inventory.Handling

/-!
# Stacks are not shared

Stacks are handed around: whoever has got a stack out of a slot may put it into another one, and
still has it when it stands in a slot no longer. But what comes into a slot is a copy, so every
stack stands in one slot at most. Another count of a stack then shows in one slot at most, and if
the stack stands in a slot, it does show there.

* `Realm.stackIn?`: what a slot holds;
* `Realm.stackIn?_recounted`: what slots hold after a stack got another count;
* `Handling.unshared_states`: stacks are never shared, whatever is done.
-/

namespace Chainwalk

open Method

namespace Realm

/-- The stack that stands in a slot of an inventory. -/
def heldIn? (realm : Realm) (r : Ref .inventory) (k : Nat) : Option (Ref .stack) :=
  ((realm.inventories.get? r).bind fun i => i.slots[k]?).join

/-- What a slot of an inventory holds. -/
def stackIn? (realm : Realm) (r : Ref .inventory) (k : Nat) : Option ItemStack :=
  (realm.heldIn? r k).bind realm.itemStacks.get?

variable {realm : Realm} {ref : Ref .stack} {n : UInt8} {r r' : Ref .inventory} {k k' : Nat}

theorem heldIn?_eq_some_iff : realm.heldIn? r k = some ref ↔ realm.Stands ref r k := by
  rw [heldIn?, Option.join_eq_some_iff, Option.bind_eq_some_iff, Stands]

/-- Another count of a stack shows in the slot where it stands, and in no other slot. -/
theorem stackIn?_recounted (realm : Realm) (ref : Ref .stack) (n : UInt8) (r : Ref .inventory)
    (k : Nat) :
    (realm.recounted ref n).stackIn? r k =
      if realm.heldIn? r k = some ref then (realm.stackIn? r k).map (·.withCount n)
      else realm.stackIn? r k := by
  have hheld : (realm.recounted ref n).heldIn? r k = realm.heldIn? r k := rfl
  rw [stackIn?, hheld, stackIn?, recounted]
  rcases realm.heldIn? r k with _ | ref'
  · rfl
  · simp only [Option.bind_some, Table.get?_modify, Option.some.injEq]

theorem heldIn?_of_ne_recounted
    (h : (realm.recounted ref n).stackIn? r k ≠ realm.stackIn? r k) :
    realm.heldIn? r k = some ref := by
  by_contra hne
  rw [stackIn?_recounted, if_neg hne] at h
  exact h rfl

theorem fresh_empty : Realm.empty.Fresh := by
  refine ⟨fun ref s hs => ?_, fun r i hi => ?_⟩
  · exact absurd (hs.symm.trans (Table.get?_empty ref)) (Option.some_ne_none s)
  · exact absurd (hi.symm.trans (Table.get?_empty r)) (Option.some_ne_none i)

theorem Fresh.newInventory (h : realm.Fresh) : (Realm.newInventory realm).2.Fresh := by
  refine ⟨h.inBounds, fun r i hi => ?_⟩
  change (realm.inventories.insert .empty).get? r = some i at hi
  rw [Table.get?_insert] at hi
  split at hi
  · exact (Option.some.inj hi).symm
  · exact h.empty r i hi

end Realm

/-- Setting an amount gives a stack another count, or does nothing. -/
theorem Method.realm_invoke_setAmount (h : Hierarchy) (recv : Object) (args : List Value)
    (s : Store) :
    (setAmount.invoke h recv args s).2.realm = s.realm ∨
      ∃ ref n, (setAmount.invoke h recv args s).2.realm = s.realm.recounted ref n := by
  by_cases hcall : ∃ ref tag n, recv = .stack ref ∧ args = [some (.value tag (.scalar .int n))]
  · obtain ⟨ref, tag, n, rfl, rfl⟩ := hcall
    exact .inr ⟨ref, clampCount n, by rw [snd_invoke_setAmount]⟩
  · exact .inl (by rw [snd_invoke_setAmount_of_ne h s hcall])

/-- Whatever is done with new inventories, no stack ever stands in two slots, of one inventory or of
    two. So setting the amount of any stack, however it was got hold of, leaves all stacks where
    they are, and what the slots hold, but for one slot at most: that in which the stack stands, if
    it stands in one, where it then has the new amount. -/
theorem Handling.unshared_states (h : Hierarchy) {s : Store} (hs : s.realm.Fresh)
    (ks : List Handling) (t : Store) (ht : t ∈ states h ks s) :
    (∀ ref r k r' k', t.realm.Stands ref r k → t.realm.Stands ref r' k' → r = r' ∧ k = k') ∧
      (∀ recv args, let u := (setAmount.invoke h recv args t).2
        u.realm.inventories = t.realm.inventories ∧
        ∀ r k r' k', u.realm.stackIn? r k ≠ t.realm.stackIn? r k →
          u.realm.stackIn? r' k' ≠ t.realm.stackIn? r' k' → r = r' ∧ k = k') ∧
      ∀ ref tag n r k,
        let u := (setAmount.invoke h (.stack ref) [some (.value tag (.scalar .int n))] t).2
        (t.realm.Stands ref r k →
          u.realm.stackIn? r k = (t.realm.stackIn? r k).map (·.withCount (clampCount n))) ∧
        (¬t.realm.Stands ref r k → u.realm.stackIn? r k = t.realm.stackIn? r k) := by
  have ho := orderly_states h hs.orderly ks t ht
  refine ⟨ho.apart, fun recv args => ?_, fun ref tag n r k => ?_⟩
  · intro u
    rcases realm_invoke_setAmount h recv args t with hu | ⟨ref, n, hu⟩
    · exact ⟨by rw [hu], fun r k _ _ hne => absurd (by rw [hu]) hne⟩
    · refine ⟨by rw [hu]; rfl, fun r k r' k' hne hne' => ?_⟩
      -- In both slots it is the stack with another count that stands there.
      rw [hu] at hne hne'
      exact ho.apart ref r k r' k' (Realm.heldIn?_eq_some_iff.1 (Realm.heldIn?_of_ne_recounted hne))
        (Realm.heldIn?_eq_some_iff.1 (Realm.heldIn?_of_ne_recounted hne'))
  · intro u
    have hu : u.realm = t.realm.recounted ref (clampCount n) := by
      simp only [u, snd_invoke_setAmount]
    rw [hu, Realm.stackIn?_recounted, ← Realm.heldIn?_eq_some_iff]
    exact ⟨fun hheld => if_pos hheld, fun hheld => if_neg hheld⟩

theorem Method.setItem_mem : setItem ∈ itemStackMethods ++ inventoryMethods :=
  List.mem_append_right _ (List.get_mem _ _)

/-- A stack of one item is made and put into a slot; then the stack that stands there is put into a
    slot of another inventory. -/
def Handling.handing : List Handling :=
  [ make .stone 1,
    call ⟨setItem, setItem_mem⟩ (.inventory ⟨0⟩)
      [some (.value 0 (.scalar .int 0)), some (.stack ⟨0⟩)],
    call ⟨setItem, setItem_mem⟩ (.inventory ⟨1⟩)
      [some (.value 0 (.scalar .int 3)), some (.stack ⟨1⟩)] ]

/-- A store with two inventories. -/
def Store.twoInventories : Store :=
  (Act.realm Realm.newInventory (Act.realm Realm.newInventory Store.empty).2).2

/-- Another amount of the stack in the one inventory does not show in the other one. -/
theorem Handling.unshared_states_handing :
    let t := handing.foldl (after .builtins) Store.twoInventories
    let u := (setAmount.invoke .builtins (.stack ⟨1⟩) [some (.value 1 (.scalar .int 5))] t).2
    Store.twoInventories.realm.Fresh ∧ t ∈ states .builtins handing Store.twoInventories ∧
      u.realm.stackIn? ⟨0⟩ 0 = some ⟨.stone, 5⟩ ∧ u.realm.stackIn? ⟨1⟩ 3 = some ⟨.stone, 1⟩ := by
  have hfresh : Store.twoInventories.realm.Fresh := Realm.fresh_empty.newInventory.newInventory
  have ht : handing.foldl (after .builtins) Store.twoInventories ∈
      states .builtins handing Store.twoInventories :=
    .tail _ (.tail _ (.tail _ (.head _)))
  have hhere : (handing.foldl (after .builtins) Store.twoInventories).realm.heldIn? ⟨0⟩ 0 =
      some ⟨1⟩ := by cbv
  have hthere : (handing.foldl (after .builtins) Store.twoInventories).realm.heldIn? ⟨1⟩ 3 =
      some ⟨2⟩ := by cbv
  have hone : (handing.foldl (after .builtins) Store.twoInventories).realm.stackIn? ⟨0⟩ 0 =
      some ⟨.stone, 1⟩ := by cbv
  have hother : (handing.foldl (after .builtins) Store.twoInventories).realm.stackIn? ⟨1⟩ 3 =
      some ⟨.stone, 1⟩ := by cbv
  obtain ⟨-, -, hamount⟩ := unshared_states .builtins hfresh handing _ ht
  refine ⟨hfresh, ht, ?_, ?_⟩
  · rw [(hamount ⟨1⟩ 1 5 ⟨0⟩ 0).1 (Realm.heldIn?_eq_some_iff.1 hhere), hone]
    decide
  · rw [(hamount ⟨1⟩ 1 5 ⟨1⟩ 3).2, hother]
    rw [← Realm.heldIn?_eq_some_iff, hthere]
    decide

end Chainwalk
