import Chainwalk.Conversion.Literal
import Chainwalk.Realm.Location

/-!
# Coordinates

A coordinate is given as it is, or with a tilde in front as an offset from where the
sender stands; a tilde alone is no offset.
-/

namespace Chainwalk

/-- A coordinate as it is given. -/
inductive Coordinate (α : Type)
  | absolute (v : α)
  | relative (offset : α)
  deriving DecidableEq, Repr

namespace Coordinate

variable {α : Type}

/-- The coordinate, given the one of the sender. -/
def resolve (add : α → α → α) (base : α) : Coordinate α → α
  | absolute v => v
  | relative offset => add base offset

/-- Whether a coordinate needs a sender. -/
def isRelative : Coordinate α → Bool
  | absolute _ => false
  | relative _ => true

/-- Reads a coordinate, blanks around it apart. -/
def read (h : Hierarchy) (number : String → Option α) (zero : α) (name : String) (target : Class)
    (literal : String) : Except Fault (Coordinate α) :=
  let word := Text.trim literal
  match Text.afterFirst '~' word with
  | some rest =>
    if rest.isEmpty then .ok (.relative zero)
    else
      match number rest with
      | some v => .ok (.relative v)
      | none => .error (unreadable h word target ("invalid relative " ++ name))
  | none =>
    match number word with
    | some v => .ok (.absolute v)
    | none => .error (unreadable h word target ("invalid " ++ name))

/-- Reads a coordinate of a location. -/
def readDouble (h : Hierarchy) (target : Class) (literal : String) :
    Except Fault (Coordinate Float) :=
  read h (fun s => (Chainwalk.readDouble s).toOption) 0 "coordinate" target literal

/-- A whole number of 32 bits. -/
def int? (s : String) : Option Int32 :=
  ((IntegerWidth.signed 32).read s).toOption.map Int32.ofInt

/-- Reads a coordinate of a block. -/
def readInt (h : Hierarchy) (target : Class) (literal : String) :
    Except Fault (Coordinate Int32) :=
  read h int? 0 "block coordinate" target literal

end Coordinate

end Chainwalk
