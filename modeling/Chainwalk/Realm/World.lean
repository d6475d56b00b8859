import Chainwalk.Realm.Location
import Chainwalk.Realm.Material
import Chainwalk.Realm.Weather
import Std.Data.HashMap

/-!
# Worlds

A world has a grid of blocks, a clock, a weather, a spawn point and its mobs. In the
`Grid` only the cells that are not air are stored, and these come in no particular order: a
`BlockOrder` is one in which they can be gone through.
-/

namespace Chainwalk

/-- The lowest height of a block. -/
def minHeight : Int32 := 0

/-- The height above all blocks. -/
def maxHeight : Int32 := 256

/-- The cells of a world that are not air. -/
structure Grid where
  cells : Std.HashMap BlockPos Material

namespace Grid

/-- The grid of air. -/
def empty : Grid := ⟨∅⟩

variable (g : Grid)

/-- The material of a cell. -/
def get (p : BlockPos) : Material := g.cells[p]?.getD .air

/-- The grid with the material put into a cell; air empties it. -/
def set (p : BlockPos) (m : Material) : Grid :=
  if m = .air then ⟨g.cells.erase p⟩ else ⟨g.cells.insert p m⟩

/-- The height of the topmost cell of a column that is not air. -/
def highest? (x z : Int32) : Option Int32 :=
  ((g.cells.keys.filter fun p => p.x = x && p.z = z).map BlockPos.y).foldl
    (fun top y => some (top.elim y (max · y))) none

/-- The cells that are not air, in the order of their coordinates. -/
def toSortedList : List (BlockPos × Material) :=
  g.cells.toList.mergeSort fun a b =>
    a.1.x < b.1.x || (a.1.x = b.1.x && (a.1.y < b.1.y || (a.1.y = b.1.y && a.1.z ≤ b.1.z)))

theorem perm_toSortedList : g.toSortedList.Perm g.cells.toList := List.mergeSort_perm _ _

@[simp] theorem get_empty (p : BlockPos) : empty.get p = .air := by
  simp [get, empty]

theorem get_set (p q : BlockPos) (m : Material) :
    (g.set p m).get q = if q = p then m else g.get q := by
  by_cases hm : m = .air <;> by_cases hq : q = p
  all_goals simp [set, get, hm, hq, Std.HashMap.getElem?_insert, Std.HashMap.getElem?_erase,
    beq_iff_eq, eq_comm (a := p)]

end Grid

/-- An order in which the cells of a grid that are not air can be gone through. -/
structure BlockOrder where
  arrange : Grid → List (BlockPos × Material)
  perm : ∀ g, (arrange g).Perm g.cells.toList

namespace BlockOrder

/-- The order of the coordinates. -/
def sorted : BlockOrder := ⟨Grid.toSortedList, Grid.perm_toSortedList⟩

/-- The order in which the cells are stored. -/
def stored : BlockOrder := ⟨fun g => g.cells.toList, fun _ => .refl _⟩

end BlockOrder

/-- How long a day lasts. -/
def ticksPerDay : UInt64 := 24000

/-- A loaded world. -/
structure World where
  name : String
  seed : UInt64
  time : UInt64
  weather : Weather
  spawn : Float × Float × Float
  grid : Grid
  /-- The mobs that were spawned here. -/
  mobs : List (Ref .mob)
  /-- The server that the world belongs to. -/
  server : Option (Ref .server)

namespace World

/-- A new world: morning, clear, and empty. -/
def make (name : String) (seed : UInt64) (server : Option (Ref .server)) : World :=
  ⟨name, seed, 0, .clear, (0.5, 64, 0.5), .empty, [], server⟩

variable (w : World)

/-- Whether the sun is up. -/
def isDayTime : Bool := w.time % ticksPerDay < ticksPerDay / 2

/-- The world some ticks later. The clock stops at its greatest value. -/
def advanced (ticks : UInt64) : World :=
  { w with time := UInt64.ofNat (min (UInt64.size - 1) (w.time.toNat + ticks.toNat)) }

/-- The text of a world. -/
def text : String := "World(" ++ w.name ++ ")"

end World

end Chainwalk
