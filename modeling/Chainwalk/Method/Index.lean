import Chainwalk.Method.Basic

/-!
# Method indices

The `MethodIndex` of a class holds every method that can be called on its instances,
by signature: the declarations of all classes of the linearization, the most general
first, each replacing an earlier one of its signature.
-/

namespace Chainwalk

/-- The methods of a class by signature. -/
structure MethodIndex where
  /-- No two methods have the same signature. -/
  entries : List (String × Method)

namespace MethodIndex

/-- The index with a method under its signature, in place of the one it had there. -/
def insert (entries : List (String × Method)) (signature : String) (m : Method) :
    List (String × Method) :=
  (signature, m) :: entries.filter fun e => e.1 ≠ signature

/-- The index of a class. -/
def build (t : ClassTable) (c : Class) : MethodIndex :=
  ⟨((t.hierarchy.linearization c).reverse.flatMap t.declared).foldl
    (fun entries m => insert entries (m.signature t.hierarchy) m) []⟩

/-- The classes whose indices are known, after looking up those of some more. Each class is
    listed once. -/
def known (classes more : List Class) : List Class :=
  more.foldl (fun classes c => if c ∈ classes then classes else classes ++ [c]) classes

variable (i : MethodIndex)

/-- The method of a signature. -/
def get? (signature : String) : Option Method := i.entries.lookup signature

/-- The number of signatures. -/
def size : Nat := i.entries.length

/-- The signatures in the order of their characters. -/
def signatures : List String := (i.entries.map Prod.fst).mergeSort

/-- The signatures that begin with `start`, whatever the case of ASCII letters. -/
def startingWith (start : String) : List String :=
  i.signatures.filter fun s =>
    (Text.lowerAscii start).toList.isPrefixOf (Text.lowerAscii s).toList

end MethodIndex

end Chainwalk
