import Chainwalk.Json.Decode
import Chainwalk.Json.Printer
import Chainwalk.Snapshot.Basic

/-!
# Snapshots as documents

Snapshots are kept as documents. What a document leaves out of a server, a world or a
player is as in the default one; a box, a mob or an item must be complete.
-/

namespace Chainwalk

namespace Json

/-- A whole number of 32 bits with a sign. -/
def int32? (v : Json) : Option Int32 := (integer? (.signed 32) v).map Int32.ofInt

/-- A whole number of 8 bits. -/
def uint8? (v : Json) : Option UInt8 := (integer? (.unsigned 8) v).map fun n => UInt8.ofNat n.toNat

/-- A whole number of 32 bits. -/
def uint32? (v : Json) : Option UInt32 :=
  (integer? (.unsigned 32) v).map fun n => UInt32.ofNat n.toNat

/-- A whole number of 64 bits. -/
def uint64? (v : Json) : Option UInt64 :=
  (integer? (.unsigned 64) v).map fun n => UInt64.ofNat n.toNat

/-- A constant of an enumerated type. -/
def enumerated? {α : Type} [Enumerated α] : Json → Option α := constant? Enumerated.ofName?

end Json

open Json

namespace Fill

/-- The box in a document. -/
def ofJson? (v : Json) : Option Fill := do
  match ← v.record? ["from", "to", "material"] with
  | [corner, opposite, material] =>
    return ⟨← required? (triple? int32?) corner, ← required? (triple? int32?) opposite,
      ← required? enumerated? material⟩
  | _ => none

end Fill

namespace MobSpec

/-- The mob in a document. -/
def ofJson? (v : Json) : Option MobSpec := do
  match ← v.record? ["kind", "pos"] with
  | [kind, position] =>
    return ⟨← required? enumerated? kind, ← required? (triple? double?) position⟩
  | _ => none

end MobSpec

namespace ItemSpec

/-- The items in a document. -/
def ofJson? (v : Json) : Option ItemSpec := do
  match ← v.record? ["material", "count"] with
  | [material, count] => return ⟨← required? enumerated? material, ← required? uint8? count⟩
  | _ => none

end ItemSpec

namespace WorldSpec

/-- The world in a document. -/
def ofJson? (v : Json) : Option WorldSpec := do
  match ← v.record? ["name", "seed", "time", "weather", "spawn", "fills", "mobs"] with
  | [name, seed, time, weather, spawn, fills, mobs] =>
    return {
      name := ← orDefault? string? default.name name
      seed := ← orDefault? uint64? default.seed seed
      time := ← orDefault? uint64? default.time time
      weather := ← orDefault? enumerated? default.weather weather
      spawn := ← orDefault? (optional? (triple? double?)) default.spawn spawn
      fills := ← orDefault? (list? Fill.ofJson?) default.fills fills
      mobs := ← orDefault? (list? MobSpec.ofJson?) default.mobs mobs }
  | _ => none

end WorldSpec

namespace PlayerSpec

/-- The player in a document. -/
def ofJson? (v : Json) : Option PlayerSpec := do
  match ← v.record? ["name", "world", "pos", "game_mode", "level", "items"] with
  | [name, world, position, gameMode, level, items] =>
    return {
      name := ← orDefault? string? default.name name
      world := ← orDefault? string? default.world world
      position := ← orDefault? (optional? (triple? double?)) default.position position
      gameMode := ← orDefault? enumerated? default.gameMode gameMode
      level := ← orDefault? int32? default.level level
      items := ← orDefault? (list? ItemSpec.ofJson?) default.items items }
  | _ => none

end PlayerSpec

/-- Three numbers as an array. -/
def Triple.outline {α : Type} (f : α → Outline) (t : Triple α) : Outline :=
  .list [f t.1, f t.2.1, f t.2.2]

/-- A constant as a text. -/
def Enumerated.outline {α : Type} [Enumerated α] (a : α) : Outline := .text (Enumerated.name a)

/-- A whole number of 32 bits in a document. -/
def outlineInt32 (n : Int32) : Outline := .int n.toInt

/-- A box as a document. -/
def Fill.outline (f : Fill) : Outline :=
  .record
    [("from", f.corner.outline outlineInt32), ("to", f.opposite.outline outlineInt32),
      ("material", Enumerated.outline f.material)]

/-- A mob as a document. -/
def MobSpec.outline (m : MobSpec) : Outline :=
  .record [("kind", Enumerated.outline m.kind), ("pos", m.position.outline .double)]

/-- Items as a document. -/
def ItemSpec.outline (i : ItemSpec) : Outline :=
  .record [("material", Enumerated.outline i.material), ("count", .nat i.count.toNat)]

/-- A world as a document. -/
def WorldSpec.outline (w : WorldSpec) : Outline :=
  .record
    [("name", .text w.name), ("seed", .nat w.seed.toNat), ("time", .nat w.time.toNat),
      ("weather", Enumerated.outline w.weather),
      ("spawn", .optional (Triple.outline .double) w.spawn),
      ("fills", .list (w.fills.map Fill.outline)), ("mobs", .list (w.mobs.map MobSpec.outline))]

/-- A player as a document. -/
def PlayerSpec.outline (p : PlayerSpec) : Outline :=
  .record
    [("name", .text p.name), ("world", .text p.world),
      ("pos", .optional (Triple.outline .double) p.position),
      ("game_mode", Enumerated.outline p.gameMode), ("level", outlineInt32 p.level),
      ("items", .list (p.items.map ItemSpec.outline))]

namespace Snapshot

/-- The snapshot in a document. -/
def ofJson? (v : Json) : Option Snapshot := do
  match ← v.record? ["name", "max_players", "worlds", "players"] with
  | [name, maxPlayers, worlds, players] =>
    return {
      name := ← orDefault? string? default.name name
      maxPlayers := ← orDefault? uint32? default.maxPlayers maxPlayers
      worlds := ← orDefault? (list? WorldSpec.ofJson?) default.worlds worlds
      players := ← orDefault? (list? PlayerSpec.ofJson?) default.players players }
  | _ => none

/-- The snapshot that a text is the document of. -/
def parse? (text : String) : Option Snapshot := (Json.parse? text).bind ofJson?

/-- A snapshot as a document. -/
def outline (s : Snapshot) : Outline :=
  .record
    [("name", .text s.name), ("max_players", .nat s.maxPlayers.toNat),
      ("worlds", .list (s.worlds.map WorldSpec.outline)),
      ("players", .list (s.players.map PlayerSpec.outline))]

/-- The document of a snapshot. -/
def print (s : Snapshot) : String := s.outline.print

end Snapshot

end Chainwalk
