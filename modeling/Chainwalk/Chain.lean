import Chainwalk.Access
import Chainwalk.Conversion.Registry
import Chainwalk.Method.Index

/-!
# Chains

A chain is a list of tokens that is walked as calls. The first token is the signature
of a method of the value at hand, as many tokens as the method has parameters are read
as its arguments, the method is called, and its result is the next value at hand. The
first failure ends the walk.

* `Engine.run`: the walk;
* `Halt`: how a walk can fail, with its kind and its reason in words.

Whatever was done stays done. A call is made only after all its arguments have been read,
there are enough of them, and access is granted; where it is not made, nothing has happened
since the call before but what the handlers have done that read the arguments.
-/

namespace Chainwalk

/-- How the walk of a chain fails. -/
inductive Halt
  /-- There is a token but no object to call it on. -/
  | callOnNull (token : String)
  /-- A method that has a result gave null. -/
  | returnedNull (token : String)
  | unknownMethod (token className : String)
  | raised (token : String) (cause : Fault)
  | badArgument (token : String) (cause : ConversionFault)
  | tooFewArguments (token : String) (required : Nat) (returns : String) (given : Nat)

namespace Halt

/-- The kind of failure in words. -/
def kind : Halt → String
  | callOnNull _ | returnedNull _ => "null reference"
  | unknownMethod _ _ => "unknown reference"
  | raised _ _ => "unhandled exception"
  | badArgument _ _ => "input error"
  | tooFewArguments .. => "argument mismatch"

/-- The reason for the failure in words. -/
def reason : Halt → String
  | callOnNull token => "cannot call " ++ token ++ " on null"
  | returnedNull token => token ++ " returned null"
  | unknownMethod token className => "unknown method " ++ token ++ " for " ++ className
  | raised token _ => token ++ " raised an exception"
  | badArgument token cause => "invalid argument for " ++ token ++ ": " ++ cause.message
  | tooFewArguments token required returns given =>
    token ++ " requires " ++ toString required ++ " argument(s) and returns " ++ returns ++
      ", got " ++ toString given

/-- The fault behind the failure. -/
def cause? : Halt → Option Fault
  | raised _ cause => some cause
  | badArgument _ cause => some cause.cause
  | _ => none

end Halt

/-- What a chain is walked with. -/
structure Engine where
  table : ClassTable
  registry : Registry
  access : AccessPolicy
  sender : Option Sender

/-- How the walk of a chain ended. -/
structure Run where
  outcome : Except Halt Value
  store : Store
  /-- The classes whose methods were looked up, in order. -/
  consulted : List Class

namespace Engine

variable (e : Engine)

/-- The hierarchy of the classes. -/
def hierarchy : Hierarchy := e.table.hierarchy

/-- Calls a method with the literals as its arguments. -/
def segment (token : String) (m : Method) (literals : List String) (recv : Object) (s : Store) :
    Except Halt Value × Store :=
  let required := m.params.length
  let expected := m.params.take literals.length
  match e.registry.attemptMany e.hierarchy e.sender expected literals s with
  | (.error cause, s) => (.error (.badArgument token cause), s)
  | (.ok args, s) =>
    if args.length ≠ required then
      (.error (.tooFewArguments token required (m.returnName e.hierarchy) args.length), s)
    else if !e.access.permits e.hierarchy m then
      (.error (.raised token (.illegalAccess (m.signature e.hierarchy))), s)
    else
      match m.invoke e.hierarchy recv args s with
      | (.error (.raised _ cause), s) => (.error (.raised token cause), s)
      | (.error cause, s) => (.error (.raised token cause), s)
      | (.ok none, s) => (if m.returns.isSome then .error (.returnedNull token) else .ok none, s)
      | (.ok (some o), s) => (.ok (some o), s)

/-- Walks the tokens from the value at hand. -/
def run (tokens : List String) (current : Value) (s : Store) : Run :=
  match tokens, current with
  | [], v => ⟨.ok v, s, []⟩
  | token :: _, none => ⟨.error (.callOnNull token), s, []⟩
  | token :: rest, some recv =>
    match (MethodIndex.build e.table recv.class_).get? token with
    | none =>
      ⟨.error (.unknownMethod token (e.hierarchy.name recv.class_)), s, [recv.class_]⟩
    | some m =>
      match e.segment token m (rest.take m.params.length) recv s with
      | (.error halt, s) => ⟨.error halt, s, [recv.class_]⟩
      | (.ok v, s) =>
        let r := run (rest.drop m.params.length) v s
        { r with consulted := recv.class_ :: r.consulted }
termination_by tokens.length
decreasing_by simp only [List.length_cons, List.length_drop]; omega

end Engine

end Chainwalk
