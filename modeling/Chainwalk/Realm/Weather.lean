import Chainwalk.Realm.Enumerated

/-!
# Weather

The weather of a world and how it dims the light of the sky.
-/

namespace Chainwalk

/-- The weather of a world. -/
inductive Weather
  | clear
  | precipitation
  | thunderstorm
  deriving DecidableEq, Repr

instance : Enumerated Weather where
  all := [.clear, .precipitation, .thunderstorm]
  name
    | .clear => "CLEAR"
    | .precipitation => "PRECIPITATION"
    | .thunderstorm => "THUNDERSTORM"
  label
    | .clear => "Clear"
    | .precipitation => "Precipitation"
    | .thunderstorm => "Thunderstorm"

namespace Weather

/-- Every constant is in the list. -/
theorem mem_all (a : Weather) : a ∈ (Enumerated.all : List Weather) := by
  cases a <;> decide

/-- Whether rain or snow falls. -/
def isWet : Weather → Bool
  | clear => false
  | precipitation | thunderstorm => true

/-- Whether there is thunder. -/
def isThundering (w : Weather) : Bool := w = thunderstorm

/-- The share of the light of the sky that comes through. -/
def skylight : Weather → Float32
  | clear => 1
  | precipitation => 0.85
  | thunderstorm => 0.78

end Weather

end Chainwalk
