import Chainwalk.Realm.Material

/-!
# Item stacks

A stack holds items of one material, at most as many as the material allows.
-/

namespace Chainwalk

/-- A number of items of one material. -/
structure ItemStack where
  material : Material
  count : UInt8
  deriving DecidableEq, Repr

namespace ItemStack

/-- A stack of `count` items, or of as many as there may be. -/
def make (material : Material) (count : UInt8) : ItemStack :=
  ⟨material, min count material.maxStackSize⟩

variable (s : ItemStack)

/-- The most items the stack can hold. -/
def maxSize : UInt8 := s.material.maxStackSize

/-- Whether no further item fits. -/
def isFull : Bool := s.maxSize ≤ s.count

/-- The stack with another count, or with as many as there may be. -/
def withCount (count : UInt8) : ItemStack := { s with count := min count s.maxSize }

/-- Whether two stacks hold the same material. -/
def canMerge (t : ItemStack) : Bool := s.material = t.material

/-- How many further items fit. -/
def space : UInt8 := if s.count < s.maxSize then s.maxSize - s.count else 0

/-- How many of `amount` further items do not fit. -/
def excess (amount : UInt8) : UInt8 := amount - min amount s.space

/-- The stack with as many of `amount` further items as fit. -/
def add (amount : UInt8) : ItemStack := { s with count := s.count + min amount s.space }

/-- How many of `amount` items can be taken out. -/
def removable (amount : UInt8) : UInt8 := min amount s.count

/-- The stack less as many of `amount` items as it has. -/
def remove (amount : UInt8) : ItemStack := { s with count := s.count - s.removable amount }

/-- The text of a stack: its count and its material. -/
def text : String := toString s.count.toNat ++ "x" ++ Enumerated.name s.material

end ItemStack

end Chainwalk
