import Chainwalk.Object.Store
import Chainwalk.Text.Pieces

/-!
# Texts of objects

Every object has a `text`, which is what it says of itself when asked, and a
`description`, which shows all it is made of and stands for it inside the description
of another object. A record is described by its name and its fields in order; what can
change is wrapped as a cell, and what is only pointed at, as a world by its locations,
is not followed.
-/

namespace Chainwalk

/-! ## Forms -/

namespace Description

/-- Keys with their values, in a row. -/
def row (entries : List (String × String)) : String :=
  ", ".intercalate (entries.map fun (key, v) => key ++ ": " ++ v)

/-- A record with its fields. -/
def record (name : String) (fields : List (String × String)) : String :=
  name ++ " \x7b " ++ row fields ++ " \x7d"

/-- A plain value that can change. -/
def cell (v : String) : String := record "Cell" [("value", v)]

/-- A composite value that can change. -/
def shared (v : String) : String := record "RefCell" [("value", v)]

/-- What is only pointed at. -/
def pointer : String := "(Weak)"

/-- A value that may be absent. -/
def optional : Option String → String
  | none => "None"
  | some v => "Some(" ++ v ++ ")"

/-- Keys with their values. -/
def mapping (entries : List (String × String)) : String := "\x7b" ++ row entries ++ "\x7d"

/-- A few values side by side. -/
def tuple (items : List String) : String := "(" ++ ", ".intercalate items ++ ")"

/-- A number with a fraction. -/
def double (x : Float) : String := Layout.detailed.double x

end Description

open Description

namespace ScalarKind

/-- The text of a plain value. -/
def text : (k : ScalarKind) → k.Carrier → String
  | boolean, b => if b then "true" else "false"
  | byte, n => toString n.toInt
  | short, n => toString n.toInt
  | int, n => toString n.toInt
  | long, n => toString n.toInt
  | float, x => Layout.plain.single x
  | double, x => Layout.plain.double x
  | char, c => String.singleton c
  | string, s => s

/-- The description of a plain value. -/
def describe : (k : ScalarKind) → k.Carrier → String
  | float, x => Layout.detailed.single x
  | double, x => Layout.detailed.double x
  | char, c => Text.quotedChar c
  | string, s => Text.quoted s
  | k, v => k.text v

end ScalarKind

/-! ## Residents of the realm -/

/-- The description of a location. -/
def Location.describe (l : Location) : String :=
  record "Location" [("world", pointer), ("x", double l.x), ("y", double l.y), ("z", double l.z)]

/-- The description of the position of a block. -/
def BlockPos.describe (p : BlockPos) : String :=
  tuple [toString p.x.toInt, toString p.y.toInt, toString p.z.toInt]

/-- The description of a block. -/
def Block.describe (b : Block) : String :=
  record "Block"
    [("world", pointer), ("x", toString b.pos.x.toInt), ("y", toString b.pos.y.toInt),
      ("z", toString b.pos.z.toInt)]

/-- The description of a stack. -/
def ItemStack.describe (s : ItemStack) : String :=
  record "ItemStack"
    [("material", Enumerated.label s.material), ("count", cell (toString s.count.toNat))]

/-- The description of what all entities have. -/
def Entity.describe (e : Entity) : String :=
  record "EntityBase"
    [("id", toString e.id.toNat), ("name", Text.quoted e.name),
      ("location", shared e.location.describe), ("health", cell (double e.health)),
      ("max_health", double e.maxHealth)]

/-- The description of a mob. -/
def Mob.describe (m : Mob) : String :=
  record "Mob" [("base", m.base.describe), ("kind", Enumerated.label m.kind)]

namespace Realm

variable (realm : Realm)

/-- The description of what is no longer there. -/
def gone : String := "(Gone)"

/-- The description of an inventory. -/
def describeInventory (i : Inventory) : String :=
  let slot (s : Slot) : String :=
    optional (s.map fun r => ((realm.itemStacks.get? r).map ItemStack.describe).getD gone)
  record "Inventory" [("slots", shared (Text.bracketed (i.slots.map slot)))]

/-- The description of a player. -/
def describePlayer (p : Player) : String :=
  record "Player"
    [("base", p.base.describe), ("address", Text.quoted p.address),
      ("game_mode", cell (Enumerated.label p.gameMode)), ("level", cell (toString p.level.toInt)),
      ("inventory", ((realm.inventories.get? p.inventory).map realm.describeInventory).getD gone),
      ("messages", shared (Text.bracketed (p.messages.map Text.quoted)))]

/-- The description of a world. Its blocks are shown in the order in which they come. -/
def describeWorld (r : Ref .world) (w : World) : String :=
  record "World"
    [("name", Text.quoted w.name), ("seed", toString w.seed.toNat),
      ("time", cell (toString w.time.toNat)), ("weather", cell (Enumerated.label w.weather)),
      ("spawn", cell (tuple [double w.spawn.1, double w.spawn.2.1, double w.spawn.2.2])),
      ("blocks", shared (mapping
        (((realm.order r).arrange w.grid).map fun (p, m) => (p.describe, Enumerated.label m)))),
      ("mobs", shared (Text.bracketed
        (w.mobs.map fun r => ((realm.mobs.get? r).map Mob.describe).getD gone))),
      ("server", pointer), ("me", pointer)]

/-- The description of a server. -/
def describeServer (s : Server) : String :=
  record "Server"
    [("name", Text.quoted s.name), ("max_players", toString s.maxPlayers.toNat),
      ("tick", cell (toString s.tick.toNat)),
      ("next_entity_id", cell (toString s.nextEntityId.toNat)),
      ("worlds", shared (Text.bracketed
        (s.worlds.map fun r => ((realm.worlds.get? r).map (realm.describeWorld r)).getD gone))),
      ("players", shared (Text.bracketed
        (s.players.map fun r => ((realm.players.get? r).map realm.describePlayer).getD gone))),
      ("me", pointer)]

end Realm

/-! ## Objects -/

/-- The description of a class. -/
def Hierarchy.describeClass (h : Hierarchy) (c : Class) : String := "Class(" ++ h.path c ++ ")"

namespace Datum

variable (h : Hierarchy) (realm : Realm)

/-- The description of an object of the host's own making. -/
def hostedText (label : String) : String := "Dyn(" ++ label ++ ")"

/-- The description of a value. -/
def describe : Datum → String
  | scalar k v => k.describe v
  | array k vs => Text.bracketed (vs.map k.describe)
  | constant c => c.label
  | classRef c => "ClassRef(" ++ h.describeClass c ++ ")"
  | location l => l.describe
  | block b => b.describe
  | hosted _ label _ => hostedText label

/-- The text of a value. -/
def text : Datum → String
  | scalar k v => k.text v
  | constant c => c.name
  | classRef c => "class " ++ h.path c
  | location l => realm.locationText l
  | block b => realm.blockText b
  | d => d.describe h

end Datum

namespace Object

variable (h : Hierarchy) (realm : Realm)

mutual

/-- The description of an object. -/
def describe : Object → String
  | value _ d => d.describe h
  | list _ elements => "ArrayList(" ++ Text.bracketed (describeAll elements) ++ ")"
  | server r => ((realm.servers.get? r).map realm.describeServer).getD Realm.gone
  | world r => ((realm.worlds.get? r).map (realm.describeWorld r)).getD Realm.gone
  | player r => ((realm.players.get? r).map realm.describePlayer).getD Realm.gone
  | mob r => ((realm.mobs.get? r).map Mob.describe).getD Realm.gone
  | inventory r => ((realm.inventories.get? r).map realm.describeInventory).getD Realm.gone
  | stack r => ((realm.itemStacks.get? r).map ItemStack.describe).getD Realm.gone

/-- The descriptions of the elements of a list. -/
def describeAll : List (Option Object) → List String
  | [] => []
  | v :: vs => describeValue v :: describeAll vs

/-- The description of an object or null. -/
def describeValue : Option Object → String
  | none => optional none
  | some o => optional (some (describe o))

end

/-- The text of an object. -/
def text (o : Object) : String :=
  match o with
  | value _ d => d.text h realm
  | list _ _ => o.describe h realm
  | server r => ((realm.servers.get? r).map Server.text).getD Realm.gone
  | world r => ((realm.worlds.get? r).map World.text).getD Realm.gone
  | player r => ((realm.players.get? r).map Player.text).getD Realm.gone
  | mob r => ((realm.mobs.get? r).map Mob.text).getD Realm.gone
  | inventory r => ((realm.inventories.get? r).map Inventory.text).getD Realm.gone
  | stack r => ((realm.itemStacks.get? r).map ItemStack.text).getD Realm.gone

end Object

end Chainwalk
