import Chainwalk.Method.Index
import Chainwalk.Method.Items
import Chainwalk.Method.Worlds

/-!
# The catalog

The methods that each built-in class declares, and the class table made of them.
-/

namespace Chainwalk

/-- The methods that a built-in class declares. -/
def Builtin.methods : Builtin → List Method
  | object => objectMethods
  | enumeration => enumerationMethods
  | classObject => classMethods
  | scalar .string => stringMethods
  | scalar _ | array _ => []
  | collection => collectionMethods
  | list => listMethods
  | arrayList => []
  | entity => entityMethods
  | player => playerMethods
  | mob => mobMethods
  | gameMode | material | mobType | weather => []
  | inventory => inventoryMethods
  | itemStack => itemStackMethods
  | server => serverMethods
  | world => worldMethods
  | location => locationMethods
  | block => blockMethods

namespace ClassTable

/-- A hierarchy with the methods of the built-in classes, and those that the host
    declares of the classes it has defined. -/
def withDefined (h : Hierarchy) (declared : Nat → List Method) : ClassTable :=
  ⟨h, fun
    | .builtin b => b.methods
    | .defined n => declared n⟩

/-- The built-in classes with their methods. -/
def builtins : ClassTable := withDefined .builtins fun _ => []

end ClassTable

end Chainwalk
