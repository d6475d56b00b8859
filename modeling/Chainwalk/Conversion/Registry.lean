import Chainwalk.Conversion.Handler

/-!
# Registries

A registry holds at most one input handler and one output handler for each class. A
class is served by the input handler registered for it, else by the first polymorphic
one that it lies below, in the order of registration; objects are written by the first
output handler that their class lies below.

The input handlers stand in a table by class, and those that are polymorphic also in a
list that keeps their order. Every change keeps the two in step.

A handler may have parts of a literal read by the registry, and so conversions go on inside
one another, as far as there is *room* for them. Nothing else bounds them: handlers that only
pass a literal on to one another use up all the room there is.

* `Registry.register`, `Registry.remove`, `Registry.removeFor`: the registry after a
  change, and whether the change was made;
* `Registry.attempt`: a literal as an object of a class, with all that its handler does;
* `Registry.instantiate`: what comes of the attempt;
* `Registry.formatObject`: an object as text.
-/

namespace Chainwalk

/-- The handlers of both sides. -/
structure Registry where
  /-- The input handlers by class. -/
  exact : List (Class × InputHandler)
  /-- The polymorphic input handlers in the order of registration. -/
  polymorphic : List InputHandler
  /-- The output handlers in the order of registration. -/
  outputs : List OutputHandler
  /-- For how many conversions inside one another there is room. -/
  room : Nat

/-- An attempt at a conversion by a registry. What handlers have done before it fails stays
    done. -/
abbrev Attempt := ExceptT ConversionFault (StateM Store)

/-- What comes of attempts: a value with the store to go on with, or the failure. -/
abbrev Reading := StateT Store (Except ConversionFault)

namespace Attempt

variable {α : Type}

/-- What comes of an attempt. -/
def answer (a : Attempt α) : Reading α := fun s =>
  match a s with
  | (.ok v, s) => .ok (v, s)
  | (.error fault, _) => .error fault

/-- An attempt as an act. -/
def toAct (a : Attempt α) : Act α := ExceptT.adapt ConversionFault.toFault a

theorem answer_eq_ok_iff {a : Attempt α} {s t : Store} {v : α} :
    a.answer s = .ok (v, t) ↔ a s = (.ok v, t) := by
  rw [answer]
  rcases a s with ⟨fault | w, u⟩
  · exact ⟨fun h => (by cases h), fun h => (by cases h)⟩
  · exact ⟨fun h => (by cases h; rfl), fun h => (by cases h; rfl)⟩

theorem answer_eq_error_iff {a : Attempt α} {s : Store} {fault : ConversionFault} :
    a.answer s = .error fault ↔ ∃ t, a s = (.error fault, t) := by
  rw [answer]
  rcases a s with ⟨fault' | w, u⟩
  · exact ⟨fun h => (by cases h; exact ⟨u, rfl⟩), fun ⟨t, h⟩ => (by cases h; rfl)⟩
  · exact ⟨fun h => (by cases h), fun ⟨t, h⟩ => (by cases h)⟩

end Attempt

namespace Registry

/-- The registry without handlers. -/
def empty : Registry := ⟨[], [], [], 1000⟩

variable (r : Registry)

/-- The input handlers, wherever they stand. -/
def inputs : List InputHandler := r.exact.map Prod.snd ++ r.polymorphic

/-! ## Changes -/

/-- The input handler registered for exactly this class. -/
def registered? (c : Class) : Option InputHandler := r.exact.lookup c

/-- The registry that does not have this handler in the list of polymorphic ones. -/
def forget (h : InputHandler) : Registry :=
  { r with polymorphic := r.polymorphic.filter (·.id ≠ h.id) }

/-- The registry without an input handler in the table for this class. -/
def vacate (c : Class) : Registry := { r with exact := r.exact.filter (·.1 ≠ c) }

/-- The registry with an input handler in the table for its class, and in the list if it is
    polymorphic. -/
def install (h : InputHandler) : Registry :=
  { r with
    exact := (r.vacate h.relevant).exact ++ [(h.relevant, h)]
    polymorphic := if h.polymorphic then r.polymorphic ++ [h] else r.polymorphic }

/-- Registers a handler. A polymorphic input handler gives way to a new one for its class;
    any other handler stands, and the new one is refused. -/
def register : Handler → Bool × Registry
  | .input h =>
    match r.registered? h.relevant with
    | some old => if old.polymorphic then (true, (r.forget old).install h) else (false, r)
    | none => (true, r.install h)
  | .output h =>
    if r.outputs.any (·.relevant = h.relevant) then (false, r)
    else (true, { r with outputs := r.outputs ++ [h] })

/-- Removes exactly this handler, if it is registered. -/
def remove : Handler → Bool × Registry
  | .input h =>
    if (r.registered? h.relevant).any (·.id = h.id) then
      (true, (r.vacate h.relevant).forget h)
    else (false, r)
  | .output h =>
    let kept := r.outputs.filter (·.id ≠ h.id)
    (kept.length ≠ r.outputs.length, { r with outputs := kept })

/-- Removes the handlers for a class, if there are any. -/
def removeFor (c : Class) : Bool × Registry :=
  let kept := r.outputs.filter (·.relevant ≠ c)
  match r.registered? c with
  | some old => (true, { (r.vacate c).forget old with outputs := kept })
  | none => (kept.length ≠ r.outputs.length, { r with outputs := kept })

/-- The registry with the handlers that it accepts, and how many these are. -/
def registerAll (r : Registry) : List Handler → Nat × Registry
  | [] => (0, r)
  | h :: hs =>
    let (accepted, r) := r.register h
    let (n, r) := registerAll r hs
    (if accepted then n + 1 else n, r)

/-- What a change leads to, or nothing if it was not made. -/
def ifMade (change : Bool × Registry) : Option Registry :=
  if change.1 then some change.2 else none

/-- The registry with one more handler, if it accepts it. -/
def register? (h : Handler) : Option Registry := ifMade (r.register h)

/-- The registry without exactly this handler, if it had it. -/
def remove? (h : Handler) : Option Registry := ifMade (r.remove h)

/-- The registry without the handlers for a class, if it had any. -/
def removeFor? (c : Class) : Option Registry := ifMade (r.removeFor c)

/-! ## Resolution -/

/-- The input handler that serves a class. -/
def inputFor? (h : Hierarchy) (c : Class) : Option InputHandler :=
  (r.registered? c).or (r.polymorphic.find? fun i => h.isA c i.relevant)

/-- The output handler that writes instances of a class. -/
def outputFor? (h : Hierarchy) (c : Class) : Option OutputHandler :=
  r.outputs.find? fun o => h.isA c o.relevant

/-- How many input handlers, how many polymorphic ones, and how many output handlers
    there are. -/
def counts : Nat × Nat × Nat :=
  (r.exact.length, r.polymorphic.length, r.outputs.length)

/-! ## Reading -/

/-- The literal that stands for null in every class. -/
def nullToken : String := "\\null\\"

/-- Reads a literal with at most `depth` conversions inside one another. -/
def attemptWithin (h : Hierarchy) (sender : Option Sender) :
    Nat → Class → String → Attempt Value
  | depth, c, literal =>
    if literal = nullToken then return none
    else
      match r.inputFor? h c with
      | none => throw ⟨.noHandler (h.path c)⟩
      | some handler =>
        match depth with
        | 0 => throw ⟨.noRoom (h.path c)⟩
        | depth + 1 =>
          let nested (d : Class) (part : String) : Act Value :=
            (attemptWithin h sender depth d part).toAct
          ExceptT.adapt ConversionFault.wrap (handler.convert h sender nested literal c)

/-- Reads a literal as an object of a class. -/
def attempt (h : Hierarchy) (sender : Option Sender) (c : Class) (literal : String) :
    Attempt Value :=
  r.attemptWithin h sender r.room c literal

/-- Reads each literal as an object of its class, in order. -/
def attemptEach (h : Hierarchy) (sender : Option Sender) :
    List Class → List String → Attempt (List Value)
  | c :: cs, l :: ls => do
    let v ← r.attempt h sender c l
    return v :: (← attemptEach h sender cs ls)
  | _, _ => return []

/-- Reads as many literals as there are classes. -/
def attemptMany (h : Hierarchy) (sender : Option Sender) (cs : List Class)
    (ls : List String) : Attempt (List Value) :=
  if cs.length ≠ ls.length then throw ⟨.literalCount cs.length ls.length⟩
  else r.attemptEach h sender cs ls

/-- What comes of reading a literal as an object of a class. -/
def instantiate (h : Hierarchy) (sender : Option Sender) (c : Class) (literal : String) :
    Reading Value :=
  (r.attempt h sender c literal).answer

/-- What comes of reading as many literals as there are classes. -/
def instantiateMany (h : Hierarchy) (sender : Option Sender) (cs : List Class)
    (ls : List String) : Reading (List Value) :=
  (r.attemptMany h sender cs ls).answer

/-! ## Writing -/

/-- The text of an object. What no handler writes speaks for itself. -/
def formatObject (h : Hierarchy) (realm : Realm) (o : Object) : String :=
  match r.outputFor? h o.class_ with
  | some handler => handler.render h realm o fun p _ => formatObject h realm p
  | none => o.text h realm
termination_by o.weight

/-- The text of a value; null has none. -/
def format? (h : Hierarchy) (realm : Realm) (v : Value) : Option String :=
  v.map (r.formatObject h realm)

end Registry

end Chainwalk
