import Chainwalk.Number.Layout
import Chainwalk.Realm.Inventory
import Chainwalk.Realm.World
import Chainwalk.Text.Quoted

/-!
# Refusals

Why the realm refuses a change or a question. Each reason has its wording in
`Refusal.message`.
-/

namespace Chainwalk

/-- A reason why the realm refuses something. -/
inductive Refusal
  | heightOutside (y : Int32)
  | notPlaceable (m : Material)
  | unloaded
  | worldExists (name : String)
  | playerOnline (name : String)
  | serverFull
  /-- Spawning needs a location in the world `name`. -/
  | notInWorld (name : String)
  /-- The block asked for lies in the world `name`. -/
  | liesIn (name : String)
  /-- No distance between points of two worlds. -/
  | apart (here there : String)
  | healthOutside (health maxHealth : Float)
  | unknownWorld (player world : String)
  | negativeTime
  | negativeTicks
  | slotOutside (slot : Int32)
  /-- What a reference stood for has been released. -/
  | released

namespace Refusal

/-- The wording of a refusal. -/
def message : Refusal → String
  | heightOutside y =>
    "y=" ++ toString y.toInt ++ " is outside " ++ toString minHeight.toInt ++ ".." ++
      toString maxHeight.toInt
  | notPlaceable m => Enumerated.label m ++ " cannot be placed"
  | unloaded => "world is unloaded"
  | worldExists name => "world " ++ name ++ " already exists"
  | playerOnline name => "player " ++ name ++ " is already online"
  | serverFull => "server is full"
  | notInWorld name => "location is not in world " ++ name
  | liesIn name => "location is in " ++ name
  | apart here there => "cannot measure distance between " ++ here ++ " and " ++ there
  | healthOutside health maxHealth =>
    "health " ++ Layout.plain.double health ++ " is outside 0..=" ++ Layout.plain.double maxHealth
  | unknownWorld player world => "player " ++ player ++ " is in unknown world " ++ Text.quoted world
  | negativeTime => "time must not be negative"
  | negativeTicks => "ticks must not be negative"
  | slotOutside slot =>
    "slot " ++ toString slot.toInt ++ " out of range 0.." ++ toString inventorySize
  | released => "no longer there"

end Refusal

end Chainwalk
