import Chainwalk.Realm.Table

/-!
# Locations and blocks

A `Location` is a point of a world, a `Block` one cell of its grid. Both only refer to
their world, so they can be held after it is gone.
-/

namespace Chainwalk

/-- Coordinates of a cell. -/
structure BlockPos where
  x : Int32
  y : Int32
  z : Int32
  deriving DecidableEq, Repr, Hashable

/-- A point in a world. -/
structure Location where
  world : Ref .world
  x : Float
  y : Float
  z : Float

/-- A cell of a world. -/
structure Block where
  world : Ref .world
  pos : BlockPos
  deriving DecidableEq, Repr

/-- The sum of two numbers, brought back into the bounds of 32 bits. -/
def saturatingAdd (a b : Int32) : Int32 :=
  Int32.ofInt (max Int32.minValue.toInt (min Int32.maxValue.toInt (a.toInt + b.toInt)))

namespace Location

variable (l : Location)

/-- The coordinates of the cell around a point, each rounded down and brought within
    32 bits. -/
def blockPos : BlockPos := ⟨l.x.floor.toInt32, l.y.floor.toInt32, l.z.floor.toInt32⟩

/-- The cell around a point. -/
def block : Block := ⟨l.world, l.blockPos⟩

/-- The point moved by an offset. -/
def offset (dx dy dz : Float) : Location := { l with x := l.x + dx, y := l.y + dy, z := l.z + dz }

/-- The distance of two points by their coordinates. -/
def separation (k : Location) : Float :=
  let dx := l.x - k.x
  let dy := l.y - k.y
  let dz := l.z - k.z
  (dx * dx + dy * dy + dz * dz).sqrt

end Location

namespace Block

variable (b : Block)

/-- The lower corner of a cell. -/
def location : Location :=
  ⟨b.world, b.pos.x.toFloat, b.pos.y.toFloat, b.pos.z.toFloat⟩

/-- The cell at an offset; coordinates stop at the bounds of 32 bits. -/
def relative (dx dy dz : Int32) : Block :=
  ⟨b.world, saturatingAdd b.pos.x dx, saturatingAdd b.pos.y dy, saturatingAdd b.pos.z dz⟩

end Block

end Chainwalk
