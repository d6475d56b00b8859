import Chainwalk.Class.Hierarchy
import Chainwalk.Realm.Entity

/-!
# Objects

An `Object` is anything that a method can be called on: a value with an identity of
its own, a list, or a resident of the realm. A `Value` is an object or null.

Two objects are the same (`Object.same`) if they have one identity, not if they look
alike: every value made anew gets a tag that no other has.
-/

namespace Chainwalk

/-- A constant of an enumeration class. -/
inductive Constant
  | material (m : Material)
  | mobType (t : MobType)
  | gameMode (g : GameMode)
  | weather (w : Weather)
  /-- The constant at some place of the class that the host defined at `index`. -/
  | defined (index : Nat) (ordinal : Nat) (name : String)
  deriving DecidableEq, Repr

namespace Constant

/-- The class of a constant. -/
def class_ : Constant → Class
  | material _ => .material
  | mobType _ => .mobType
  | gameMode _ => .gameMode
  | weather _ => .weather
  | defined index _ _ => .defined index

/-- The declared name of a constant. -/
def name : Constant → String
  | material m => Enumerated.name m
  | mobType t => Enumerated.name t
  | gameMode g => Enumerated.name g
  | weather w => Enumerated.name w
  | defined _ _ name => name

/-- The name of a constant in descriptions. -/
def label : Constant → String
  | material m => Enumerated.label m
  | mobType t => Enumerated.label t
  | gameMode g => Enumerated.label g
  | weather w => Enumerated.label w
  | defined _ _ name => name

/-- The place of a constant in its class. -/
def ordinal : Constant → Nat
  | material m => Enumerated.ordinal m
  | mobType t => Enumerated.ordinal t
  | gameMode g => Enumerated.ordinal g
  | weather w => Enumerated.ordinal w
  | defined _ ordinal _ => ordinal

end Constant

/-- The constants of an enumeration class in order; other classes have none. -/
def Hierarchy.constants (h : Hierarchy) : Class → List Constant
  | .material => Enumerated.all.map .material
  | .mobType => Enumerated.all.map .mobType
  | .gameMode => Enumerated.all.map .gameMode
  | .weather => Enumerated.all.map .weather
  | .builtin _ => []
  | .defined n =>
    (h.info (.defined n)).constants.zipIdx.map fun (name, k) => .defined n k name

/-- What a value is, its identity apart. -/
inductive Datum
  | scalar (kind : ScalarKind) (value : kind.Carrier)
  | array (kind : ScalarKind) (elements : List kind.Carrier)
  | constant (c : Constant)
  | classRef (c : Class)
  | location (l : Location)
  | block (b : Block)
  /-- An object of the host's own making. A sealed one shows itself as its own class
      only. -/
  | hosted (c : Class) (label : String) (isSealed : Bool)

/-- Anything that a method can be called on. -/
inductive Object
  | value (tag : Nat) (datum : Datum)
  | list (tag : Nat) (elements : List (Option Object))
  | server (r : Ref .server)
  | world (r : Ref .world)
  | player (r : Ref .player)
  | mob (r : Ref .mob)
  | inventory (r : Ref .inventory)
  | stack (r : Ref .stack)

/-- An object or null. -/
abbrev Value := Option Object

namespace Datum

/-- The class of a value. -/
def class_ : Datum → Class
  | scalar kind _ => .scalar kind
  | array kind _ => .array kind
  | constant c => c.class_
  | classRef _ => .classObject
  | location _ => .location
  | block _ => .block
  | hosted c _ _ => c

end Datum

namespace Object

/-- The class of an object. -/
def class_ : Object → Class
  | value _ datum => datum.class_
  | list _ _ => .arrayList
  | server _ => .server
  | world _ => .world
  | player _ => .player
  | mob _ => .mob
  | inventory _ => .inventory
  | stack _ => .itemStack

/-- What makes an object itself and no other. -/
inductive Identity
  | tag (n : Nat)
  | server (r : Ref .server)
  | world (r : Ref .world)
  | player (r : Ref .player)
  | mob (r : Ref .mob)
  | inventory (r : Ref .inventory)
  | stack (r : Ref .stack)
  deriving DecidableEq, Repr

/-- A number that tells objects of one kind apart. -/
def Identity.number : Identity → Nat
  | tag n => n
  | server r => r.index
  | world r => r.index
  | player r => r.index
  | mob r => r.index
  | inventory r => r.index
  | stack r => r.index

/-- The identity of an object. -/
def identity : Object → Identity
  | value tag _ => .tag tag
  | list tag _ => .tag tag
  | server r => .server r
  | world r => .world r
  | player r => .player r
  | mob r => .mob r
  | inventory r => .inventory r
  | stack r => .stack r

/-- Whether two objects are one. -/
def same (a b : Object) : Bool := a.identity = b.identity

/-- The constant that an object is, if it is one. -/
def constant? : Object → Option Constant
  | value _ (.constant c) => some c
  | _ => none

/-- The object that stands for an entity. -/
def ofEntity : EntityRef → Object
  | .player r => player r
  | .mob r => mob r

end Object

end Chainwalk
