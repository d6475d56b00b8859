import Chainwalk.Object.Store

/-!
# Views

A method body does not take an object apart; it asks for a view of it under a class.
Players and mobs show their entity part under the class of entities, lists show
themselves under every class of lists, constants under their class and that of all
constants, and everything else under its own class only.

* `Object.view?`: what an object shows under a class;
* `receiver`, `argument`: the view of the receiver or of an argument as some type of
  value, or the fault that says it is none.
-/

namespace Chainwalk

/-- What an object shows of itself. -/
inductive View
  | whole (o : Object)
  | entity (e : EntityRef)

namespace Object

/-- What an object shows under a class. -/
def view? (h : Hierarchy) (o : Object) (c : Class) : Option View :=
  match o with
  | .player r =>
    if c = .player then some (.whole o)
    else if c = .entity then some (.entity (.player r))
    else none
  | .mob r =>
    if c = .mob then some (.whole o)
    else if c = .entity then some (.entity (.mob r))
    else none
  | .list _ _ => if h.isA .arrayList c then some (.whole o) else none
  | .value _ (.constant (.defined n _ _)) => if c = .defined n then some (.whole o) else none
  | .value _ (.constant k) => if c = k.class_ ∨ c = .enumeration then some (.whole o) else none
  | .value _ (.hosted d _ isSealed) =>
    if c = d ∨ (!isSealed ∧ h.isA d c) then some (.whole o) else none
  | _ => if c = o.class_ then some (.whole o) else none

end Object

/-- A type of values that some views are of. -/
class Viewable (α : Type) where
  /-- The value that a view is, if it is of the type. -/
  ofView? : View → Option α

namespace Viewable

instance : Viewable Bool where
  ofView?
    | .whole (.value _ (.scalar .boolean b)) => some b
    | _ => none

instance : Viewable Int32 where
  ofView?
    | .whole (.value _ (.scalar .int n)) => some n
    | _ => none

instance : Viewable Int64 where
  ofView?
    | .whole (.value _ (.scalar .long n)) => some n
    | _ => none

instance : Viewable Float where
  ofView?
    | .whole (.value _ (.scalar .double x)) => some x
    | _ => none

instance : Viewable String where
  ofView?
    | .whole (.value _ (.scalar .string s)) => some s
    | _ => none

instance : Viewable Class where
  ofView?
    | .whole (.value _ (.classRef c)) => some c
    | _ => none

/-- A list shows its elements. -/
instance : Viewable (List Value) where
  ofView?
    | .whole (.list _ elements) => some elements
    | _ => none

instance : Viewable Material where
  ofView?
    | .whole (.value _ (.constant (.material m))) => some m
    | _ => none

instance : Viewable MobType where
  ofView?
    | .whole (.value _ (.constant (.mobType t))) => some t
    | _ => none

instance : Viewable GameMode where
  ofView?
    | .whole (.value _ (.constant (.gameMode g))) => some g
    | _ => none

instance : Viewable Weather where
  ofView?
    | .whole (.value _ (.constant (.weather w))) => some w
    | _ => none

instance : Viewable Location where
  ofView?
    | .whole (.value _ (.location l)) => some l
    | _ => none

instance : Viewable Block where
  ofView?
    | .whole (.value _ (.block b)) => some b
    | _ => none

instance : Viewable EntityRef where
  ofView?
    | .entity e => some e
    | _ => none

instance : Viewable (Ref .server) where
  ofView?
    | .whole (.server r) => some r
    | _ => none

instance : Viewable (Ref .world) where
  ofView?
    | .whole (.world r) => some r
    | _ => none

instance : Viewable (Ref .player) where
  ofView?
    | .whole (.player r) => some r
    | _ => none

instance : Viewable (Ref .mob) where
  ofView?
    | .whole (.mob r) => some r
    | _ => none

instance : Viewable (Ref .inventory) where
  ofView?
    | .whole (.inventory r) => some r
    | _ => none

instance : Viewable (Ref .stack) where
  ofView?
    | .whole (.stack r) => some r
    | _ => none

end Viewable

/-- The label of an object of the host's own making. -/
structure HostedLabel where
  text : String

instance : Viewable HostedLabel where
  ofView?
    | .whole (.value _ (.hosted _ label _)) => some ⟨label⟩
    | _ => none

namespace Object

/-- The value of a type that an object shows under a class. -/
def shows? (α : Type) [Viewable α] (h : Hierarchy) (o : Object) (c : Class) : Option α :=
  (o.view? h c).bind Viewable.ofView?

end Object

/-- The receiver of a call, as a value of a type. -/
def receiver (α : Type) [Viewable α] (h : Hierarchy) (o : Object) (c : Class) : Except Fault α :=
  match o.shows? α h c with
  | some a => .ok a
  | none => .error (.view (.notExposed (h.name o.class_) (h.name c)))

/-- An argument of a call, as a value of a type. -/
def argument (α : Type) [Viewable α] (h : Hierarchy) (args : List Value) (index : Nat) (c : Class) :
    Except Fault α :=
  match args[index]? with
  | none => .error (.view (.missingArgument index))
  | some none => .error (.nullArgument index)
  | some (some o) =>
    match o.shows? α h c with
    | some a => .ok a
    | none => .error (.view (.otherArgument index (h.name c)))

/-- The receiver as the constant that it is. -/
def constantReceiver (o : Object) : Except Fault Constant :=
  match o.constant? with
  | some k => .ok k
  | none => .error (.view .notConstant)

end Chainwalk
