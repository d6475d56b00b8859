import Chainwalk.Realm.Enumerated

/-!
# Game modes

How a player takes part in the game.
-/

namespace Chainwalk

/-- How a player takes part in the game. -/
inductive GameMode
  | survival
  | creative
  | adventure
  | spectator
  deriving DecidableEq, Repr

instance : Enumerated GameMode where
  all := [.survival, .creative, .adventure, .spectator]
  name
    | .survival => "SURVIVAL"
    | .creative => "CREATIVE"
    | .adventure => "ADVENTURE"
    | .spectator => "SPECTATOR"
  label
    | .survival => "Survival"
    | .creative => "Creative"
    | .adventure => "Adventure"
    | .spectator => "Spectator"

namespace GameMode

/-- Every constant is in the list. -/
theorem mem_all (a : GameMode) : a ∈ (Enumerated.all : List GameMode) := by
  cases a <;> decide

end GameMode

end Chainwalk
