import Chainwalk.Fault
import Chainwalk.Object.Basic
import Chainwalk.Realm.Basic

/-!
# The store

What calls and conversions work on: the realm, and the supply of tags for new values.

An `Act` is a call or a conversion. It may fail, and what it has done before it fails
stays done.

* `Act.new`: a new value, with a tag of its own;
* `Act.realm`: a change of the realm as an act.
-/

namespace Chainwalk

/-- What calls and conversions work on. -/
structure Store where
  /-- The tag of the next new value. -/
  supply : Nat
  realm : Realm
  /-- The values that the host keeps by name, the latest first. -/
  saved : List (String × Value)
  /-- The hash codes of objects. They come from where objects lie, and nothing is known of them. -/
  codes : Object.Identity → Int32

/-- A call or a conversion, which may fail; its effects stay. -/
abbrev Act := ExceptT Fault (StateM Store)

/-- An action after another: it is made where the first one leads, unless that fails. -/
theorem bind_apply {σ ε α β : Type} (a : ExceptT ε (StateM σ) α) (k : α → ExceptT ε (StateM σ) β)
    (s : σ) :
    (a >>= k) s =
      match a s with
      | (.error e, t) => (.error e, t)
      | (.ok x, t) => k x t := by
  simp only [Bind.bind, ExceptT.bind, ExceptT.mk, StateT.bind]
  rcases a s with ⟨e | x, t⟩ <;> rfl

/-- What comes after an action that gives something. -/
theorem bind_apply_of_ok {σ ε α β : Type} {a : ExceptT ε (StateM σ) α}
    {k : α → ExceptT ε (StateM σ) β} {s t : σ} {x : α} (ha : a s = (.ok x, t)) :
    (a >>= k) s = k x t := by
  rw [bind_apply, ha]

/-- An action that fails with other faults. -/
theorem adapt_apply {σ ε ε' α : Type} (g : ε → ε') (a : ExceptT ε (StateM σ) α) (s : σ) :
    ExceptT.adapt g a s = ((a s).1.mapError g, (a s).2) := rfl

namespace Store

/-- The store where nothing lives yet. -/
def empty : Store := ⟨0, .empty, [], fun i => Int32.ofNat i.number⟩

/-- The store with a value kept by name. -/
def save (s : Store) (name : String) (v : Value) : Store := { s with saved := (name, v) :: s.saved }

/-- The value kept by name; null when there is none. -/
def saved? (s : Store) (name : String) : Value := (s.saved.lookup name).join

end Store

namespace Act

/-- A change of the realm as an act. -/
def realm {α : Type} (m : RealmM α) : Act α := fun s =>
  let (r, realm) := m s.realm
  (r.mapError Fault.refused, { s with realm })

/-- A question about the realm as an act. -/
def ask {α : Type} (f : Realm → α) : Act α := return f (← get).realm

/-- The hash code of an object. -/
def code (o : Object) : Act Int32 := return (← get).codes o.identity

/-- A tag that no value has yet. -/
def tag : Act Nat := modifyGet fun s => (s.supply, { s with supply := s.supply + 1 })

/-- A new value. -/
def new (d : Datum) : Act Value := return some (.value (← tag) d)

/-- A new value of a scalar class. -/
def scalar (k : ScalarKind) (v : k.Carrier) : Act Value := new (.scalar k v)

/-- A new list. -/
def newList (elements : List Value) : Act Value := return some (.list (← tag) elements)

/-- A new list of objects. -/
def newListOf (objects : List Object) : Act Value := newList (objects.map some)

/-- An act whose outcome does not depend on the store. -/
def ofExcept {α : Type} (e : Except Fault α) : Act α := fun s => (e, s)

/-- The value, or the fault if there is none. -/
def orElse {α : Type} (v : Option α) (fault : Fault) : Act α :=
  match v with
  | some a => pure a
  | none => throw fault

end Act

end Chainwalk
