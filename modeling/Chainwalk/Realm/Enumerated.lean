import Chainwalk.Text.Ascii

/-!
# Closed lists of constants

An `Enumerated` type is a closed list of constants. Each has a name in capitals, by
which it is looked up and written in documents, and a label that descriptions use.
-/

namespace Chainwalk

/-- A closed list of named constants. -/
class Enumerated (α : Type) where
  /-- The constants in order. -/
  all : List α
  /-- The name in capitals. -/
  name : α → String
  /-- The name as it stands in descriptions. -/
  label : α → String

namespace Enumerated

variable {α : Type} [Enumerated α]

/-- The place of a constant in the list. -/
def ordinal [BEq α] (a : α) : Nat := (all : List α).idxOf a

/-- The constant with exactly this name. -/
def ofName? (name : String) : Option α := (all : List α).find? (Enumerated.name · = name)

end Enumerated

end Chainwalk
