import Chainwalk.Realm.ItemStack
import Chainwalk.Realm.Table

/-!
# Inventories

An inventory has 36 slots, each empty or holding a stack. The stacks themselves are
kept in a table, because whoever fetched a stack goes on holding it: a change of the
stack is a change of the slot it came from.

* `Inventory.add` fills the stacks of the material first, then empty slots in order;
* `Inventory.remove` drains the stacks of the material in the order of the slots.
-/

namespace Chainwalk

/-- The number of slots of an inventory. -/
def inventorySize : Nat := 36

/-- The stacks of all inventories, and those in no inventory. -/
abbrev Stacks := Table .stack ItemStack

/-- The content of a slot. -/
abbrev Slot := Option (Ref .stack)

/-- A fixed number of slots. -/
structure Inventory where
  slots : List Slot
  length_slots : slots.length = inventorySize

namespace Inventory

/-- The inventory without stacks. -/
def empty : Inventory := ⟨List.replicate inventorySize none, List.length_replicate⟩

/-! ## Adding -/

/-- What is left of `n` items, and the stacks, once the stacks of the material in the slots are
    filled up in order. -/
def fill (m : Material) : List Slot → UInt8 → Stacks → UInt8 × Stacks
  | [], n, table => (n, table)
  | none :: rest, n, table => fill m rest n table
  | some r :: rest, n, table =>
    match table.get? r with
    | some s =>
      if s.material = m && !s.isFull && n != 0 then
        fill m rest (s.excess n) (table.modify r (·.add n))
      else fill m rest n table
    | none => fill m rest n table

/-- The slots with `n` items put as new stacks into the empty ones in order, what is
    left of the items, and the stacks. -/
def place (m : Material) : List Slot → UInt8 → Stacks → List Slot × UInt8 × Stacks
  | [], n, table => ([], n, table)
  | some r :: rest, n, table =>
    let (slots, left, table) := place m rest n table
    (some r :: slots, left, table)
  | none :: rest, n, table =>
    if n = 0 then (none :: rest, n, table)
    else
      let placed := min n m.maxStackSize
      let (slots, left, after) := place m rest (n - placed) (table.insert (.make m placed))
      (some table.next :: slots, left, after)

theorem length_place (m : Material) (slots : List Slot) (n : UInt8) (table : Stacks) :
    (place m slots n table).1.length = slots.length := by
  induction slots generalizing n table with
  | nil => rfl
  | cons slot rest ih =>
    cases slot with
    | some r => simp [place, ih]
    | none =>
      rw [place]
      split
      · rfl
      · simp [ih]

/-! ## Removing -/

/-- The slots less `n` items of the material, what could not be taken, and the stacks.
    A stack that ends without items leaves its slot. -/
def drain (m : Material) : List Slot → UInt32 → Stacks → List Slot × UInt32 × Stacks
  | [], n, table => ([], n, table)
  | none :: rest, n, table =>
    let (slots, left, table) := drain m rest n table
    (none :: slots, left, table)
  | some r :: rest, n, table =>
    match table.get? r with
    | some s =>
      if s.material = m && n != 0 then
        let take : UInt8 := if n < 255 then n.toUInt8 else 255
        let after := s.remove take
        let (slots, left, table) :=
          drain m rest (n - (s.removable take).toUInt32) (table.modify r fun _ => after)
        ((if after.count = 0 then none else some r) :: slots, left, table)
      else
        let (slots, left, table) := drain m rest n table
        (some r :: slots, left, table)
    | none =>
      let (slots, left, table) := drain m rest n table
      (some r :: slots, left, table)

theorem length_drain (m : Material) (slots : List Slot) (n : UInt32) (table : Stacks) :
    (drain m slots n table).1.length = slots.length := by
  induction slots generalizing n table with
  | nil => rfl
  | cons slot rest ih =>
    cases slot with
    | none => simp [drain, ih]
    | some r =>
      rw [drain]
      split
      · split <;> simp [ih]
      · simp [ih]

/-! ## Inventories -/

variable (i : Inventory)

/-- The stack in a slot. -/
def get? (slot : Nat) : Option (Ref .stack) := i.slots[slot]?.join

/-- The inventory with another content of a slot. -/
def set (slot : Nat) (stack : Slot) : Inventory :=
  ⟨i.slots.set slot stack, by rw [List.length_set, i.length_slots]⟩

/-- The inventory with `n` further items, those that did not fit, and the stacks. -/
def add (m : Material) (n : UInt8) (table : Stacks) : Inventory × UInt8 × Stacks :=
  let (left, table) := fill m i.slots n table
  let placed := place m i.slots left table
  (⟨placed.1, by rw [length_place, i.length_slots]⟩, placed.2)

/-- The inventory less `n` items, those that could be taken, and the stacks. -/
def remove (m : Material) (n : UInt32) (table : Stacks) : Inventory × UInt32 × Stacks :=
  let drained := drain m i.slots n table
  (⟨drained.1, by rw [length_drain, i.length_slots]⟩, n - drained.2.1, drained.2.2)

/-- The stacks in the slots, with the numbers of these. -/
def contents : List (Nat × Ref .stack) :=
  i.slots.zipIdx.filterMap fun (slot, k) => slot.map (k, ·)

/-- How many items of the material there are. -/
def count (m : Material) (table : Stacks) : UInt32 :=
  ((i.slots.filterMap (·.bind table.get?)).filter (·.material = m)).foldl
    (fun n s => n + s.count.toUInt32) 0

/-- The first empty slot. -/
def firstEmpty? : Option Nat := i.slots.findIdx? Option.isNone

/-- Whether no slot holds a stack. -/
def isEmpty : Bool := i.slots.all Option.isNone

/-- The text of an inventory: how many stacks it holds. -/
def text : String := "Inventory(" ++ toString i.contents.length ++ " stacks)"

end Inventory

end Chainwalk
