import Chainwalk.Realm.GameMode
import Chainwalk.Realm.Location
import Chainwalk.Realm.MobType

/-!
# Entities

Whatever moves about in a world is an entity. A `Player` and a `Mob` have an `Entity`
as their base and add to it.
-/

namespace Chainwalk

/-- What all entities have. -/
structure Entity where
  id : UInt32
  name : String
  location : Location
  health : Float
  maxHealth : Float

namespace Entity

/-- An entity at full health. -/
def make (id : UInt32) (name : String) (location : Location) (maxHealth : Float) : Entity :=
  ⟨id, name, location, maxHealth, maxHealth⟩

/-- Whether a health lies within the bounds of the entity. -/
def allowsHealth (e : Entity) (health : Float) : Bool := 0 ≤ health && health ≤ e.maxHealth

/-- Whether no health is left. -/
def isDead (e : Entity) : Bool := e.health ≤ 0

end Entity

/-- A connected player. -/
structure Player where
  base : Entity
  gameMode : GameMode
  level : Int32
  inventory : Ref .inventory
  /-- The messages delivered so far, the earliest first. -/
  messages : List String

namespace Player

/-- A new player, in survival mode and without messages. -/
def make (id : UInt32) (name : String) (location : Location) (inventory : Ref .inventory) :
    Player :=
  ⟨.make id name location 20, .survival, 0, inventory, []⟩

variable (p : Player)

/-- The network address of a player, numbered by its identity among entities. -/
def address : String := "127.0.0.1:" ++ toString (50000 + p.base.id).toNat

/-- The player at another level, which is never negative. -/
def atLevel (level : Int32) : Player := { p with level := max level 0 }

/-- The player with one more message. -/
def receiving (message : String) : Player := { p with messages := p.messages ++ [message] }

/-- The text of a player. -/
def text : String := "Player(" ++ p.base.name ++ ")"

end Player

/-- A creature that is no player. -/
structure Mob where
  base : Entity
  kind : MobType

namespace Mob

/-- A new mob at full health, named for its kind. -/
def make (id : UInt32) (kind : MobType) (location : Location) : Mob :=
  ⟨.make id kind.entityName location kind.maxHealth, kind⟩

/-- The text of a mob: its kind and its number. -/
def text (m : Mob) : String :=
  "Mob(" ++ m.kind.entityName ++ "#" ++ toString m.base.id.toNat ++ ")"

end Mob

/-- A reference to an entity of either kind. -/
inductive EntityRef
  | player (r : Ref .player)
  | mob (r : Ref .mob)
  deriving DecidableEq, Repr

end Chainwalk
