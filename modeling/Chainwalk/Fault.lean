import Chainwalk.Realm.Refusal

/-!
# Faults

A `Fault` is why a conversion or a method call failed. A fault may stand in a context,
and a failed call or conversion holds the fault behind it.

* `Fault.message`: the outermost words;
* `Fault.chain`: all the words, from the outside in;
* `Fault.core`: the fault under the contexts.
-/

namespace Chainwalk

/-- An object or an argument did not show itself as what was expected. -/
inductive ViewFault
  | notExposed (actual expected : String)
  | missingArgument (index : Nat)
  | otherArgument (index : Nat) (expected : String)
  | notConstant
  deriving DecidableEq, Repr

namespace ViewFault

/-- The wording of a view fault. -/
def message : ViewFault → String
  | notExposed actual expected => actual ++ " does not expose " ++ expected
  | missingArgument index => "missing argument " ++ toString index
  | otherArgument index expected => "argument " ++ toString index ++ " is not " ++ expected
  | notConstant => "receiver is not an enum constant"

end ViewFault

/-- Why something failed. -/
inductive Fault
  /-- Words of a host. -/
  | plain (text : String)
  | refused (reason : Refusal)
  | view (fault : ViewFault)
  | nullArgument (index : Nat)
  | indexOutside (index : Int) (length : Nat)
  /-- A literal that stands for nothing of the expected class. -/
  | unreadable (input expected reason : String)
  /-- No converter reads literals of the class with this path. -/
  | noHandler (path : String)
  /-- No room is left for a conversion to the class with this path, inside all the others. -/
  | noRoom (path : String)
  /-- Another number of literals than of classes. -/
  | literalCount (expected given : Nat)
  /-- Another number of arguments than of parameters. -/
  | argumentCount (signature : String) (expected actual : Nat)
  | argumentType (signature : String) (index : Nat) (expected actual : String)
  | receiver (signature actual : String)
  | illegalAccess (signature : String)
  /-- The body of a method failed. -/
  | raised (signature : String) (cause : Fault)
  /-- A conversion failed; it speaks with the words of its cause. -/
  | conversion (cause : Fault)
  /-- Words put in front of a fault. -/
  | context (text : String) (cause : Fault)

namespace Fault

/-- The outermost words of a fault. -/
def message : Fault → String
  | plain text => text
  | refused reason => reason.message
  | view fault => fault.message
  | nullArgument index => "argument " ++ toString index ++ " is null"
  | indexOutside index length =>
    "index " ++ toString index ++ " out of bounds for length " ++ toString length
  | unreadable input expected reason =>
    "cannot read " ++ Text.quoted input ++ " as " ++ expected ++ ": " ++ reason
  | noHandler path => "no handler is implemented for " ++ path
  | noRoom path => "no room is left for a conversion to " ++ path
  | literalCount expected given =>
    "expected " ++ toString expected ++ " argument(s), got " ++ toString given
  | argumentCount signature expected actual =>
    signature ++ " expects " ++ toString expected ++ " argument(s), got " ++ toString actual
  | argumentType signature index expected actual =>
    "argument " ++ toString index ++ " of " ++ signature ++ " must be " ++ expected ++ ", got " ++
      actual
  | receiver signature actual => signature ++ " cannot be called on " ++ actual
  | illegalAccess signature => signature ++ " is not accessible"
  | raised signature _ => signature ++ " failed"
  | conversion cause => cause.message
  | context text _ => text

/-- The words of a fault and of all that stands behind it. -/
def messages : Fault → List String
  | raised signature cause => (signature ++ " failed") :: cause.messages
  | conversion cause => cause.messages
  | context text cause => text :: cause.messages
  | fault => [fault.message]

/-- All the words of a fault in one line. -/
def chain (fault : Fault) : String := ": ".intercalate fault.messages

/-- The fault under the contexts. -/
def core : Fault → Fault
  | context _ cause => cause.core
  | fault => fault

/-- The cause of the failed conversion that a fault is under its contexts. -/
def conversionCause? : Fault → Option Fault
  | conversion cause => some cause
  | context _ cause => cause.conversionCause?
  | _ => none

end Fault

/-- The failure of a conversion, by its root cause. -/
structure ConversionFault where
  cause : Fault

namespace ConversionFault

/-- A fault as the failure of a conversion. One that already is such a failure, or
    only stands in contexts around one, gives the cause of that. -/
def wrap (fault : Fault) : ConversionFault := ⟨fault.conversionCause?.getD fault⟩

/-- The failure as a fault. -/
def toFault (fault : ConversionFault) : Fault := .conversion fault.cause

/-- The words of the failure. -/
def message (fault : ConversionFault) : String := fault.cause.message

/-- Whether no converter was there. -/
def isNoHandler (fault : ConversionFault) : Bool :=
  match fault.cause.core with
  | .noHandler _ => true
  | _ => false

@[simp] theorem wrap_toFault (fault : ConversionFault) : wrap fault.toFault = fault := rfl

end ConversionFault

end Chainwalk
