import Chainwalk.Extension.Definition

/-!
# Scripted handlers

A host can define handlers by data: a `ScriptedInput` is one of a few things that an
input handler can do; an output handler of the host writes a word and the text of the
object.
-/

namespace Chainwalk

/-- What an input handler of the host does. -/
inductive ScriptedInput
  /-- Makes an object of the target class, labelled with the text and the literal. -/
  | labelled (text : String)
  /-- Makes a string of the text, the literal and the name of the target class. -/
  | string (text : String)
  | null
  | value (value : Recipe)
  | fail (message : String)
  | failInContext (message context : String)
  | reject (reason : String)
  /-- Reads the literal as another class. -/
  | delegate (other : Class)
  | delegateInContext (other : Class) (context : String)
  /-- Tells the sender. -/
  | sender

namespace ScriptedInput

/-- The text that tells a sender. -/
def senderText (h : Hierarchy) (realm : Realm) : Option Sender → String
  | none => "nobody"
  | some s => s.name ++ "/" ++ ScriptedBody.textOrNull h realm s.subject

/-- What the handler does with a literal. -/
def convert (server? : Option (Ref .server)) (action : ScriptedInput) (h : Hierarchy)
    (from? : Option Sender) (nested : Class → String → Act Value) (literal : String)
    (target : Class) : Act Value :=
  match action with
  | labelled text => Act.new (.hosted target (text ++ ":" ++ literal) false)
  | string text =>
    Act.new (.scalar .string (text ++ ":" ++ literal ++ ":" ++ h.name target))
  | null => return none
  | value recipe => recipe.prepare h server?
  | fail message => throw (.plain message)
  | failInContext message context => throw (.context context (.plain message))
  | reject reason => throw (unreadable h literal target reason)
  | delegate other => nested other literal
  | delegateInContext other context => ExceptT.adapt (.context context) (nested other literal)
  | sender => do
    let realm ← Act.ask id
    Act.new (.scalar .string (senderText h realm from?))

end ScriptedInput

/-- The input handler of the host with the given number. -/
def scriptedInput (n : Nat) (server? : Option (Ref .server)) (relevant : Class)
    (polymorphic : Bool) (action : ScriptedInput) : InputHandler :=
  ⟨.supplied n, relevant, polymorphic, action.convert server?⟩

/-- The output handler of the host with the given number. -/
def scriptedOutput (n : Nat) (relevant : Class) (text : String) : OutputHandler :=
  ⟨.supplied n, relevant, fun h realm o _ => text ++ "<" ++ o.text h realm ++ ">"⟩

end Chainwalk
