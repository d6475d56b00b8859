import Chainwalk.Method.Plain

/-!
# Methods of stacks and inventories

A stack that is fetched from a slot is the stack in the slot; a stack that is put into
a slot is copied, so no two slots ever hold one stack.
-/

namespace Chainwalk

open Method

/-- A count as a stack has it: negative ones are zero, large ones the greatest. -/
def clampCount (n : Int32) : UInt8 := UInt8.ofNat (min 255 n.toInt.toNat)

/-- An argument as the number of a slot. -/
def slotArgument (h : Hierarchy) (args : List Value) (index : Nat) : Act Nat := do
  let slot ← Act.ofExcept (argument Int32 h args index .int)
  if 0 ≤ slot && slot.toInt.toNat < inventorySize then return slot.toInt.toNat
  else throw (.refused (.slotOutside slot))

/-- The receiver as a stack. -/
def stackReceiver (h : Hierarchy) (recv : Object) : Act (Ref .stack) :=
  Act.ofExcept (receiver (Ref .stack) h recv .itemStack)

/-- The receiver as an inventory. -/
def inventoryReceiver (h : Hierarchy) (recv : Object) : Act (Ref .inventory) :=
  Act.ofExcept (receiver (Ref .inventory) h recv .inventory)

/-- The stack behind a reference. -/
def fetchStack (r : Ref .stack) : Act ItemStack := Act.realm (Realm.getStack r)

/-- The inventory behind a reference. -/
def fetchInventory (r : Ref .inventory) : Act Inventory := Act.realm (Realm.getInventory r)

/-- How many items of a material an inventory holds. -/
def countItems (r : Ref .inventory) (m : Material) : Act UInt32 := do
  let i ← fetchInventory r
  Act.ask fun realm => i.count m realm.itemStacks

/-- The methods of stacks. -/
def itemStackMethods : List Method :=
  [ declare .itemStack "getType" [] (some .material) fun h recv _ => do
      let s ← fetchStack (← stackReceiver h recv)
      Act.new (.constant (.material s.material)),
    declare .itemStack "getAmount" [] (some .int) fun h recv _ => do
      let s ← fetchStack (← stackReceiver h recv)
      Act.scalar .int (count32 s.count.toNat),
    declare .itemStack "setAmount" [.int] none fun h recv args => do
      let count ← Act.ofExcept (argument Int32 h args 0 .int)
      let r ← stackReceiver h recv
      Act.realm (Realm.modifyStack r (·.withCount (clampCount count)))
      return none,
    declare .itemStack "getMaxStackSize" [] (some .int) fun h recv _ => do
      let s ← fetchStack (← stackReceiver h recv)
      Act.scalar .int (count32 s.maxSize.toNat),
    declare .itemStack "isSimilar" [.itemStack] (some .boolean) fun h recv args => do
      let s ← stackReceiver h recv
      let t ← Act.ofExcept (argument (Ref .stack) h args 0 .itemStack)
      Act.scalar .boolean ((← fetchStack s).canMerge (← fetchStack t)) ]

/-- The methods of inventories. -/
def inventoryMethods : List Method :=
  [ declare .inventory "getSize" [] (some .int) fun h recv _ => do
      let _ ← inventoryReceiver h recv
      Act.scalar .int (count32 inventorySize),
    declare .inventory "getItem" [.int] (some .itemStack) fun h recv args => do
      let r ← inventoryReceiver h recv
      let slot ← slotArgument h args 0
      return ((← fetchInventory r).get? slot).map Object.stack,
    declare .inventory "setItem" [.int, .itemStack] none fun h recv args => do
      let r ← inventoryReceiver h recv
      let slot ← slotArgument h args 0
      let stack ←
        match args[1]?.join with
        | none => pure none
        | some _ => do
          let given ← fetchStack (← Act.ofExcept (argument (Ref .stack) h args 1 .itemStack))
          some <$> Act.realm (Realm.newStack (.make given.material given.count))
      Act.realm (Realm.modifyInventory r (·.set slot stack))
      return none,
    declare .inventory "addItem" [.itemStack] (some .int) fun h recv args => do
      let r ← inventoryReceiver h recv
      let s ← fetchStack (← Act.ofExcept (argument (Ref .stack) h args 0 .itemStack))
      let left ← Act.realm (Realm.addItems r s.material s.count)
      Act.scalar .int (count32 left.toNat),
    declare .inventory "removeItem" [.material, .int] (some .int) fun h recv args => do
      let r ← inventoryReceiver h recv
      let m ← Act.ofExcept (argument Material h args 0 .material)
      let amount ← Act.ofExcept (argument Int32 h args 1 .int)
      let taken ← Act.realm (Realm.removeItems r m (UInt32.ofNat amount.toInt.toNat))
      Act.scalar .int taken.toInt32,
    declare .inventory "contains" [.material] (some .boolean) fun h recv args => do
      let r ← inventoryReceiver h recv
      let m ← Act.ofExcept (argument Material h args 0 .material)
      Act.scalar .boolean (0 < (← countItems r m)),
    declare .inventory "count" [.material] (some .int) fun h recv args => do
      let r ← inventoryReceiver h recv
      let m ← Act.ofExcept (argument Material h args 0 .material)
      Act.scalar .int (← countItems r m).toInt32,
    declare .inventory "firstEmpty" [] (some .int) fun h recv _ => do
      let i ← fetchInventory (← inventoryReceiver h recv)
      Act.scalar .int (i.firstEmpty?.elim (-1) count32),
    declare .inventory "isEmpty" [] (some .boolean) fun h recv _ => do
      let i ← fetchInventory (← inventoryReceiver h recv)
      Act.scalar .boolean i.isEmpty,
    declare .inventory "getContents" [] (some .list) fun h recv _ => do
      let i ← fetchInventory (← inventoryReceiver h recv)
      Act.newListOf (i.contents.map fun (_, r) => .stack r),
    declare .inventory "clear" [] none fun h recv _ => do
      let r ← inventoryReceiver h recv
      Act.realm (Realm.modifyInventory r fun _ => .empty)
      return none,
    declare .inventory "describe" [] (some .string) fun h recv _ => do
      let i ← fetchInventory (← inventoryReceiver h recv)
      Act.scalar .string i.text ]

end Chainwalk
