import Chainwalk.Object.View
import Chainwalk.Object.Description

/-!
# Methods

A method is declared by a class. It is called by its *signature*: its name and the simple
names of its parameter classes. `Method.invoke` checks the number of arguments, the
class of the receiver and the classes of the arguments, in this order, before the
body runs; a fault of the body comes back as `Fault.raised`.

A `ClassTable` is a hierarchy with the methods that each class declares.
-/

namespace Chainwalk

/-- Who may call a method. -/
inductive Visibility
  /-- Anyone. -/
  | exported
  /-- Those with a grant. -/
  | internal
  deriving DecidableEq, Repr

namespace Visibility

/-- The visibility as it is written. -/
def label : Visibility → String
  | exported => "Exported"
  | internal => "Internal"

end Visibility

/-- What a method does with its receiver and its arguments. -/
abbrev Body := Hierarchy → Object → List Value → Act Value

/-- A method of a class. -/
structure Method where
  name : String
  /-- The class that declares the method. -/
  declaring : Class
  params : List Class
  /-- The class of the result; none for a method without result. -/
  returns : Option Class
  visibility : Visibility
  body : Body

namespace Method

/-- The signature of a method of the given name and parameter classes. Simple names are
    used, so two classes of one simple name give one signature. -/
def signatureOf (h : Hierarchy) (name : String) (params : List Class) : String :=
  name ++ "(" ++ ",".intercalate (params.map h.name) ++ ")"

/-- The method, callable only with a grant. -/
def hidden (m : Method) : Method := { m with visibility := .internal }

variable (h : Hierarchy) (m : Method)

/-- The signature of a method. -/
def signature : String := signatureOf h m.name m.params

/-- The simple name of the class of the result. -/
def returnName : String := (m.returns.map h.name).getD "void"

/-- The description of a method. -/
def describe : String :=
  Description.record "Method"
    [("signature", Text.quoted (m.signature h)), ("declaring", h.describeClass m.declaring),
      ("returns", Text.quoted (m.returnName h)), ("visibility", m.visibility.label)]

/-- The first argument that is not of its parameter class, with its place. -/
def misfit? : List Class → List Value → Nat → Option (Nat × Class × Object)
  | param :: params, some arg :: args, k =>
    if h.isA arg.class_ param then misfit? params args (k + 1) else some (k, param, arg)
  | _ :: params, none :: args, k => misfit? params args (k + 1)
  | _, _, _ => none

/-- What forbids a call, the body apart. -/
def obstacle? (recv : Object) (args : List Value) : Option Fault :=
  if args.length ≠ m.params.length then
    some (.argumentCount (m.signature h) m.params.length args.length)
  else if !h.isA recv.class_ m.declaring then
    some (.receiver (m.signature h) (h.name recv.class_))
  else
    (misfit? h m.params args 0).map fun (k, param, arg) =>
      .argumentType (m.signature h) k (h.name param) (h.name arg.class_)

/-- Calls the method. -/
def invoke (recv : Object) (args : List Value) : Act Value :=
  match m.obstacle? h recv args with
  | some fault => throw fault
  | none => tryCatch (m.body h recv args) fun fault => throw (.raised (m.signature h) fault)

end Method

/-- The classes there are and the methods that each declares, in order. -/
structure ClassTable where
  hierarchy : Hierarchy
  declared : Class → List Method

end Chainwalk
