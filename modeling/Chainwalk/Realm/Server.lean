import Chainwalk.Realm.Table

/-!
# Servers

A server owns its worlds and its players, in the order in which they came.
-/

namespace Chainwalk

/-- A server. -/
structure Server where
  name : String
  maxPlayers : UInt32
  tick : UInt64
  /-- The number that the next entity gets. -/
  nextEntityId : UInt32
  worlds : List (Ref .world)
  players : List (Ref .player)

namespace Server

/-- A new server, empty. -/
def make (name : String) (maxPlayers : UInt32) : Server := ⟨name, maxPlayers, 0, 1, [], []⟩

variable (s : Server)

/-- The server some ticks later, its worlds apart. The clock stops at its greatest value. -/
def advanced (ticks : UInt64) : Server :=
  { s with tick := UInt64.ofNat (min (UInt64.size - 1) (s.tick.toNat + ticks.toNat)) }

/-- The text of a server. -/
def text : String := "Server(" ++ s.name ++ ")"

/-- What servers answer when asked for their version. -/
def version : String := "mdinspect 0.1.0"

end Server

end Chainwalk
