import Chainwalk.Realm.GameMode
import Chainwalk.Realm.Material
import Chainwalk.Realm.MobType
import Chainwalk.Realm.Weather

/-!
# Classes

Every value that a chain can reach has a *class*. The classes that are always there
are the `Builtin` ones; a host may define more, numbered in the order of definition.
A class is a mere name here; `ClassInfo` is what is declared of it, its methods apart.

The scalar classes carry plain values: `ScalarKind.Carrier` is the type of those.
-/

namespace Chainwalk

/-- The classes of plain values. -/
inductive ScalarKind
  | boolean
  | byte
  | short
  | int
  | long
  | float
  | double
  | char
  | string
  deriving DecidableEq, Repr

namespace ScalarKind

/-- The scalar classes in order. -/
def all : List ScalarKind := [boolean, byte, short, int, long, float, double, char, string]

/-- The simple name of a scalar class. -/
def name : ScalarKind → String
  | boolean => "boolean"
  | byte => "byte"
  | short => "short"
  | int => "int"
  | long => "long"
  | float => "float"
  | double => "double"
  | char => "char"
  | string => "String"

/-- The plain values of a scalar class. -/
abbrev Carrier : ScalarKind → Type
  | boolean => Bool
  | byte => Int8
  | short => Int16
  | int => Int32
  | long => Int64
  | float => Float32
  | double => Float
  | char => Char
  | string => String

theorem mem_all (k : ScalarKind) : k ∈ all := by
  cases k <;> decide

end ScalarKind

/-- The classes that are always there. -/
inductive Builtin
  | object
  | enumeration
  | classObject
  | scalar (kind : ScalarKind)
  | array (kind : ScalarKind)
  | collection
  | list
  | arrayList
  | entity
  | player
  | mob
  | gameMode
  | material
  | mobType
  | weather
  | inventory
  | itemStack
  | server
  | world
  | location
  | block
  deriving DecidableEq, Repr

/-- A class: one that is always there, or the one that the host defined at some
    place. -/
inductive Class
  | builtin (b : Builtin)
  | defined (index : Nat)
  deriving DecidableEq, Repr

/-- The broad kinds of classes. -/
inductive ClassKind
  | concrete
  | interface
  | primitive
  | array
  | enumeration
  deriving DecidableEq, Repr

namespace ClassKind

/-- The kind as it is written. -/
def label : ClassKind → String
  | concrete => "Concrete"
  | interface => "Interface"
  | primitive => "Primitive"
  | array => "Array"
  | enumeration => "Enum"

end ClassKind

/-- What is declared of a class, its methods apart. -/
structure ClassInfo where
  /-- The simple name, used in signatures. -/
  name : String
  /-- The qualified name. -/
  path : String
  kind : ClassKind
  /-- The direct supertypes as declared. -/
  supers : List Class
  /-- The class of the elements of an array class. -/
  component : Option Class
  /-- The names of the constants of an enumeration class. -/
  constants : List String

namespace Class

/-- The root of every hierarchy. -/
@[match_pattern] abbrev object : Class := .builtin .object
/-- The supertype of enumeration classes. -/
@[match_pattern] abbrev enumeration : Class := .builtin .enumeration
/-- The class of classes as values. -/
@[match_pattern] abbrev classObject : Class := .builtin .classObject
@[match_pattern] abbrev scalar (k : ScalarKind) : Class := .builtin (.scalar k)
@[match_pattern] abbrev array (k : ScalarKind) : Class := .builtin (.array k)
@[match_pattern] abbrev boolean : Class := .scalar .boolean
@[match_pattern] abbrev int : Class := .scalar .int
@[match_pattern] abbrev long : Class := .scalar .long
@[match_pattern] abbrev double : Class := .scalar .double
@[match_pattern] abbrev char : Class := .scalar .char
@[match_pattern] abbrev string : Class := .scalar .string
@[match_pattern] abbrev collection : Class := .builtin .collection
@[match_pattern] abbrev list : Class := .builtin .list
@[match_pattern] abbrev arrayList : Class := .builtin .arrayList
@[match_pattern] abbrev entity : Class := .builtin .entity
@[match_pattern] abbrev player : Class := .builtin .player
@[match_pattern] abbrev mob : Class := .builtin .mob
@[match_pattern] abbrev gameMode : Class := .builtin .gameMode
@[match_pattern] abbrev material : Class := .builtin .material
@[match_pattern] abbrev mobType : Class := .builtin .mobType
@[match_pattern] abbrev weather : Class := .builtin .weather
@[match_pattern] abbrev inventory : Class := .builtin .inventory
@[match_pattern] abbrev itemStack : Class := .builtin .itemStack
@[match_pattern] abbrev server : Class := .builtin .server
@[match_pattern] abbrev world : Class := .builtin .world
@[match_pattern] abbrev location : Class := .builtin .location
@[match_pattern] abbrev block : Class := .builtin .block

end Class

namespace ClassInfo

/-- A class of objects without supertypes. -/
def concrete (name path : String) : ClassInfo := ⟨name, path, .concrete, [], none, []⟩

/-- A class that only contributes methods. -/
def interface (name path : String) : ClassInfo := ⟨name, path, .interface, [], none, []⟩

/-- A class of plain values. -/
def primitive (name : String) : ClassInfo := ⟨name, name, .primitive, [], none, []⟩

/-- A class of arrays of `component`. -/
def array (name : String) (component : Class) : ClassInfo :=
  ⟨name, name, .array, [], some component, []⟩

/-- A class of the given constants. -/
def ofConstants (name path : String) (names : List String) : ClassInfo :=
  ⟨name, path, .enumeration, [], none, names⟩

/-- The class with the given direct supertypes. -/
def extending (supers : List Class) (info : ClassInfo) : ClassInfo := { info with supers }

end ClassInfo

namespace Builtin

/-- The built-in classes in order. -/
def all : List Builtin :=
  [object, enumeration, classObject] ++ ScalarKind.all.map scalar ++ ScalarKind.all.map array ++
    [collection, list, arrayList, entity, player, mob, gameMode, material, mobType, weather,
      inventory, itemStack, server, world, location, block]

/-- The constants of an enumerated type as a class. -/
def constantsOf (α : Type) [Enumerated α] (name path : String) : ClassInfo :=
  .extending [.enumeration] (.ofConstants name path ((Enumerated.all : List α).map Enumerated.name))

/-- What is declared of a built-in class. -/
def info : Builtin → ClassInfo
  | object => .concrete "Object" "lang::Object"
  | enumeration => .interface "Enum" "lang::Enum"
  | classObject => .concrete "Class" "lang::Class"
  | scalar .string => .concrete "String" "lang::String"
  | scalar k => .primitive k.name
  | array k => .array (k.name ++ "[]") (.scalar k)
  | collection => .interface "Collection" "lang::Collection"
  | list => .extending [.collection] (.interface "List" "lang::List")
  | arrayList => .extending [.list] (.concrete "ArrayList" "lang::ArrayList")
  | entity => .interface "Entity" "world::Entity"
  | player => .extending [.entity] (.concrete "Player" "world::Player")
  | mob => .extending [.entity] (.concrete "Mob" "world::Mob")
  | gameMode => constantsOf GameMode "GameMode" "world::GameMode"
  | material => constantsOf Material "Material" "world::Material"
  | mobType => constantsOf MobType "MobType" "world::MobType"
  | weather => constantsOf Weather "WeatherState" "world::WeatherState"
  | inventory => .concrete "Inventory" "world::Inventory"
  | itemStack => .concrete "ItemStack" "world::ItemStack"
  | server => .concrete "Server" "world::Server"
  | world => .concrete "World" "world::World"
  | location => .concrete "Location" "world::Location"
  | block => .concrete "Block" "world::Block"

/-- The built-in class of the given simple name. -/
def ofName? (name : String) : Option Builtin := all.find? fun b => b.info.name = name

/-- How many supertypes lie above a built-in class, the root apart. -/
def depth : Builtin → Nat
  | arrayList => 2
  | list | player | mob | gameMode | material | mobType | weather => 1
  | _ => 0

/-- The supertypes of a built-in class are built in and lie nearer the root. -/
theorem depth_lt_of_mem_supers {b : Builtin} {c : Class} (h : c ∈ b.info.supers) :
    ∃ a : Builtin, c = .builtin a ∧ a.depth < b.depth := by
  cases b with
  | scalar k => cases k <;> simp [info, ClassInfo.primitive, ClassInfo.concrete] at h
  | _ =>
    simp [info, constantsOf, ClassInfo.extending, ClassInfo.concrete, ClassInfo.interface,
      ClassInfo.array] at h
    try exact ⟨_, h, by decide⟩

theorem depth_le_two (b : Builtin) : b.depth ≤ 2 := by
  cases b <;> simp [depth]

end Builtin

end Chainwalk
