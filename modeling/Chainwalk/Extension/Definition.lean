import Chainwalk.Extension.Recipe
import Chainwalk.Method.Catalog

/-!
# Definitions of classes

A host can define classes by data. Each method has a `ScriptedBody`, one of a few things
that a body can do.
-/

namespace Chainwalk

/-- What the body of a method of the host does. -/
inductive ScriptedBody
  | const (value : Recipe)
  /-- Gives the receiver. -/
  | receiver
  /-- Gives an argument. -/
  | echo (index : Nat)
  | fail (message : String)
  | failInContext (message context : String)
  /-- Fails as if a method of the given signature had failed. -/
  | failAsCall (signature : String)
  /-- Tells the class that declares the method, and the text of the receiver. -/
  | who
  /-- Joins the texts of the arguments. -/
  | join
  | intArgument (index : Nat)
  | stringArgument (index : Nat)
  /-- The length of the receiver as a list. -/
  | listLength
  /-- The label of the receiver as an object of the host's own making. -/
  | label (c : Class)

namespace ScriptedBody

/-- The text of a value, null included. -/
def textOrNull (h : Hierarchy) (realm : Realm) (v : Value) : String :=
  (v.map (Object.text h realm)).getD "null"

/-- The body of a method that `declaring` declares. -/
def body (server? : Option (Ref .server)) (declaring : Class) : ScriptedBody → Body
  | const value, h, _, _ => value.prepare h server?
  | receiver, _, recv, _ => return some recv
  | echo index, _, _, args => return args[index]?.join
  | fail message, _, _, _ => throw (.plain message)
  | failInContext message context, _, _, _ => throw (.context context (.plain message))
  | failAsCall signature, _, _, _ => throw (.raised signature (.plain "inner"))
  | who, h, recv, _ => do
    Act.scalar .string (h.path declaring ++ ":" ++ (← Act.ask (recv.text h ·)))
  | join, h, _, args => do
    let realm ← Act.ask id
    Act.scalar .string ("|".intercalate (args.map (textOrNull h realm)))
  | intArgument index, h, _, args => do
    Act.scalar .int (← Act.ofExcept (argument Int32 h args index .int))
  | stringArgument index, h, _, args => do
    Act.scalar .string (← Act.ofExcept (argument String h args index .string))
  | listLength, h, recv, _ => do
    let elements ← Act.ofExcept (Chainwalk.receiver (List Value) h recv .list)
    Act.scalar .int (count32 elements.length)
  | label c, h, recv, _ => do
    let l ← Act.ofExcept (Chainwalk.receiver HostedLabel h recv c)
    Act.scalar .string l.text

end ScriptedBody

/-- A method of the host. -/
structure ScriptedMethod where
  name : String
  params : List Class
  returns : Option Class
  visibility : Visibility
  body : ScriptedBody

namespace ScriptedMethod

/-- The method as one that `declaring` declares. -/
def method (server? : Option (Ref .server)) (declaring : Class) (m : ScriptedMethod) : Method :=
  ⟨m.name, declaring, m.params, m.returns, m.visibility, m.body.body server? declaring⟩

end ScriptedMethod

/-- The class table of a hierarchy whose defined classes have the given methods, in the
    order of definition. -/
def scriptedTable (h : Hierarchy) (server? : Option (Ref .server))
    (methods : Array (List ScriptedMethod)) : ClassTable :=
  .withDefined h fun n => ((methods[n]?).getD []).map (·.method server? (.defined n))

end Chainwalk
