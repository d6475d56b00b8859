import Chainwalk.Realm.Enumerated

/-!
# Materials

Materials are what blocks and item stacks are made of. Each has the largest size of a
stack of it; some can be placed as blocks. Air is the material of an empty block.
-/

namespace Chainwalk

/-- What a block or an item is made of. -/
inductive Material
  | air
  | stone
  | dirt
  | grassBlock
  | cobblestone
  | oakLog
  | sand
  | water
  | netherrack
  | diamond
  | enderPearl
  | diamondSword
  deriving DecidableEq, Repr

instance : Enumerated Material where
  all := [.air, .stone, .dirt, .grassBlock, .cobblestone, .oakLog, .sand, .water, .netherrack,
    .diamond, .enderPearl, .diamondSword]
  name
    | .air => "AIR"
    | .stone => "STONE"
    | .dirt => "DIRT"
    | .grassBlock => "GRASS_BLOCK"
    | .cobblestone => "COBBLESTONE"
    | .oakLog => "OAK_LOG"
    | .sand => "SAND"
    | .water => "WATER"
    | .netherrack => "NETHERRACK"
    | .diamond => "DIAMOND"
    | .enderPearl => "ENDER_PEARL"
    | .diamondSword => "DIAMOND_SWORD"
  label
    | .air => "Air"
    | .stone => "Stone"
    | .dirt => "Dirt"
    | .grassBlock => "GrassBlock"
    | .cobblestone => "Cobblestone"
    | .oakLog => "OakLog"
    | .sand => "Sand"
    | .water => "Water"
    | .netherrack => "Netherrack"
    | .diamond => "Diamond"
    | .enderPearl => "EnderPearl"
    | .diamondSword => "DiamondSword"

namespace Material

/-- Every constant is in the list. -/
theorem mem_all (a : Material) : a ∈ (Enumerated.all : List Material) := by
  cases a <;> decide

/-- The most items in a stack of the material. -/
def maxStackSize : Material → UInt8
  | diamondSword => 1
  | enderPearl => 16
  | _ => 64

/-- Whether the material can be placed as a block. -/
def isBlock : Material → Bool
  | diamond | enderPearl | diamondSword => false
  | _ => true

/-- Whether a block of the material is empty space. -/
def isAir (m : Material) : Bool := m = air

theorem maxStackSize_pos (m : Material) : 0 < m.maxStackSize := by
  cases m <;> decide

end Material

end Chainwalk
