import Chainwalk.Method.Basic
import Chainwalk.Text.LetterCase

/-!
# Methods of plain values

The methods that the classes of plain values declare: the root, enumerations, classes
as values, strings, collections and lists.
-/

namespace Chainwalk

namespace Method

/-- A method that anyone may call. -/
def declare (declaring : Class) (name : String) (params : List Class) (returns : Option Class)
    (body : Body) : Method :=
  ⟨name, declaring, params, returns, .exported, body⟩

/-- A method without parameters whose result is a plain value that the receiver's view
    gives. -/
def getter (α : Type) [Viewable α] (declaring : Class) (name : String) (k : ScalarKind)
    (f : Hierarchy → α → k.Carrier) : Method :=
  declare declaring name [] (some (.scalar k)) fun h recv _ => do
    let a ← Act.ofExcept (receiver α h recv declaring)
    Act.scalar k (f h a)

end Method

open Method

/-- A number of things as a number of 32 bits. -/
def count32 (n : Nat) : Int32 := Int32.ofNat n

namespace Object

/-- Whether an object says that it equals another: plain values and constants compare
    by class and text, everything else by identity. -/
def equals (h : Hierarchy) (realm : Realm) (a : Object) : Value → Bool
  | none => false
  | some b =>
    a.same b ||
      (let kind := (h.info a.class_).kind
       let byValue := kind = .primitive || kind = .enumeration || a.class_ = .string
       byValue && a.class_ = b.class_ && a.text h realm = b.text h realm)

end Object

/-- The element at a place that may be outside. -/
def elementAt {α : Type} (items : List α) (index : Int32) : Except Fault α :=
  let outside : Fault := .indexOutside index.toInt items.length
  if index < 0 then .error outside
  else
    match items[index.toInt.toNat]? with
    | some a => .ok a
    | none => .error outside

/-- The methods of the root. -/
def objectMethods : List Method :=
  [ declare .object "toString" [] (some .string) fun h recv _ => do
      Act.scalar .string (← Act.ask (recv.text h ·)),
    declare .object "hashCode" [] (some .int) fun _ recv _ => do
      Act.scalar .int (← Act.code recv),
    declare .object "getClass" [] (some .classObject) fun _ recv _ =>
      Act.new (.classRef recv.class_),
    declare .object "equals" [.object] (some .boolean) fun h recv args => do
      Act.scalar .boolean (← Act.ask (recv.equals h · args.head?.join)) ]

/-- The methods of all enumeration classes. -/
def enumerationMethods : List Method :=
  [ declare .enumeration "name" [] (some .string) fun _ recv _ => do
      Act.scalar .string (← Act.ofExcept (constantReceiver recv)).name,
    declare .enumeration "ordinal" [] (some .int) fun _ recv _ => do
      Act.scalar .int (count32 (← Act.ofExcept (constantReceiver recv)).ordinal) ]

/-- The methods of classes as values. -/
def classMethods : List Method :=
  [ getter Class .classObject "getSimpleName" .string fun h c => h.name c,
    getter Class .classObject "getName" .string fun h c => h.path c,
    getter Class .classObject "isInterface" .boolean fun h c => (h.info c).kind = .interface,
    getter Class .classObject "isEnum" .boolean fun h c => (h.info c).kind = .enumeration,
    declare .classObject "getInterfaces" [] (some .list) fun h recv _ => do
      let c ← Act.ofExcept (receiver Class h recv .classObject)
      Act.newList (← (h.supers c).mapM fun s => Act.new (.classRef s)),
    declare .classObject "getEnumConstants" [] (some .list) fun h recv _ => do
      let c ← Act.ofExcept (receiver Class h recv .classObject)
      if (h.info c).kind = .enumeration then
        Act.newList (← (h.constants c).mapM fun k => Act.new (.constant k))
      else return none ]

/-- The methods of strings. -/
def stringMethods : List Method :=
  [ getter String .string "length" .int fun _ s => count32 s.length,
    getter String .string "isEmpty" .boolean fun _ s => s.isEmpty,
    getter String .string "toUpperCase" .string fun _ s => Text.toUpper s,
    getter String .string "toLowerCase" .string fun _ s => Text.toLower s,
    declare .string "charAt" [.int] (some .char) fun h recv args => do
      let s ← Act.ofExcept (receiver String h recv .string)
      let index ← Act.ofExcept (argument Int32 h args 0 .int)
      Act.scalar .char (← Act.ofExcept (elementAt s.toList index)),
    declare .string "contains" [.string] (some .boolean) fun h recv args => do
      let s ← Act.ofExcept (receiver String h recv .string)
      let part ← Act.ofExcept (argument String h args 0 .string)
      Act.scalar .boolean (Text.occursIn part.toList s.toList) ]

/-- The methods of collections. -/
def collectionMethods : List Method :=
  [ getter (List Value) .collection "size" .int fun _ elements => count32 elements.length,
    getter (List Value) .collection "isEmpty" .boolean fun _ elements => elements.isEmpty ]

/-- The methods of lists. -/
def listMethods : List Method :=
  [ declare .list "get" [.int] (some .object) fun h recv args => do
      let elements ← Act.ofExcept (receiver (List Value) h recv .list)
      let index ← Act.ofExcept (argument Int32 h args 0 .int)
      Act.ofExcept (elementAt elements index) ]

end Chainwalk
