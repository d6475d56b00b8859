import Chainwalk.Object.View
import Chainwalk.Object.Description

/-!
# Handlers

A handler converts between texts and objects for one class, its *relevant* class: an
`InputHandler` reads a literal, an `OutputHandler` writes an object. A polymorphic input
handler also serves every class below its relevant class; an output handler always does.

A handler may go back to the registry it is in, for the parts of what it reads or
writes. Writing only goes down to objects of less `Object.weight`, so it ends.
-/

namespace Chainwalk

/-- Whoever a conversion or a chain is run for. -/
structure Sender where
  name : String
  /-- The object that stands for the sender in the realm. -/
  subject : Value

namespace Sender

/-- The sender of commands that no player gave. -/
def console : Sender := ⟨"console", none⟩

/-- The sender that a player of the server is. -/
def player? (realm : Realm) (server : Ref .server) (name : String) : Option Sender := do
  let r ← realm.player? server name
  return ⟨(← realm.players.get? r).base.name, some (.player r)⟩

end Sender

/-- What makes a handler itself and no other. -/
inductive HandlerId
  /-- The handler that the library has for a class. -/
  | shipped (c : Class)
  /-- A handler of the host. -/
  | supplied (n : Nat)
  deriving DecidableEq, Repr

/-- Reads literals of its relevant class. -/
structure InputHandler where
  id : HandlerId
  relevant : Class
  polymorphic : Bool
  /-- Reads a literal as the target class, for a sender, with the registry at hand for nested
      literals. -/
  convert : Hierarchy → Option Sender → (Class → String → Act Value) → String → Class → Act Value

namespace Object

mutual

/-- How deep the writing of an object goes at most. -/
def weight : Object → Nat
  | value _ (.block _) => 1
  | value _ _ => 0
  | list _ elements => weightAll elements + 1
  | world _ => 1
  | stack _ => 1
  | inventory _ => 2
  | server _ | player _ | mob _ => 0

/-- The weight of the elements of a list. -/
def weightAll : List (Option Object) → Nat
  | [] => 0
  | v :: vs => weightValue v + weightAll vs

/-- The weight of an object or null. -/
def weightValue : Option Object → Nat
  | none => 0
  | some o => weight o

end

/-- An element of a list weighs less than the list. -/
theorem weight_lt_of_mem {tag : Nat} {elements : List Value} {o : Object}
    (h : some o ∈ elements) : o.weight < (list tag elements).weight := by
  have : o.weight ≤ weightAll elements := by
    induction elements with
    | nil => simp at h
    | cons v vs ih =>
      rw [weightAll]
      rcases List.mem_cons.1 h with rfl | h
      · rw [weightValue]; omega
      · have := ih h; omega
  rw [weight]
  omega

end Object

/-- Writes objects of its relevant class and of all classes below it. -/
structure OutputHandler where
  id : HandlerId
  relevant : Class
  /-- Writes an object, with the registry at hand for lighter ones. -/
  render : Hierarchy → Realm → (o : Object) → ((p : Object) → p.weight < o.weight → String) →
    String

/-- A handler of either side. -/
inductive Handler
  | input (h : InputHandler)
  | output (h : OutputHandler)

namespace Handler

/-- The class that a handler is registered under. -/
def relevant : Handler → Class
  | input h => h.relevant
  | output h => h.relevant

/-- The description of a handler. -/
def describe (h : Hierarchy) : Handler → String
  | input i =>
    Description.record "Input"
      [("class", h.describeClass i.relevant),
        ("polymorphic", if i.polymorphic then "true" else "false")]
  | output o => Description.record "Output" [("class", h.describeClass o.relevant)]

end Handler

/-- A literal that stands for nothing of a class. -/
def unreadable (h : Hierarchy) (input : String) (c : Class) (reason : String) : Fault :=
  .unreadable input (h.name c) reason

end Chainwalk
