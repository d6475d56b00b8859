import Chainwalk.Json.Decode
import Chainwalk.Text.Blank

/-!
# Command scripts

A script is a document with a list of steps, each a command and, if it is not the
console's, the player who gives it.
-/

namespace Chainwalk

/-- A command of a script. -/
structure ScriptStep where
  command : String
  /-- The player who gives the command. -/
  player : Option String
  deriving DecidableEq, Repr

/-- Why a document is no script. -/
inductive ScriptFault
  | malformed
  | noSteps
  | emptyStep (index : Nat)
  deriving DecidableEq, Repr

namespace ScriptFault

/-- The wording of a fault. -/
def message : ScriptFault → String
  | malformed => "invalid command script"
  | noSteps => "command script contains no steps"
  | emptyStep index => "command script step " ++ toString index ++ " is empty"

end ScriptFault

namespace ScriptStep

open Json in
/-- The step in a document. -/
def ofJson? (v : Json) : Option ScriptStep := do
  match ← v.record? ["command", "player"] with
  | [command, player] =>
    return ⟨← required? string? command, ← orDefault? (optional? string?) none player⟩
  | _ => none

/-- A step as it is played: without blanks around the command, and without a player
    whose name is blank. -/
def tidy (s : ScriptStep) : ScriptStep :=
  ⟨Text.trim s.command, s.player.filter fun p => !(Text.trim p).isEmpty⟩

end ScriptStep

namespace Script

open Json in
/-- The steps in a document, as they are written. -/
def ofJson? (v : Json) : Option (List ScriptStep) := do
  match ← v.record? ["steps"] with
  | [steps] => required? (list? ScriptStep.ofJson?) steps
  | _ => none

/-- The steps of the script that a text is the document of. -/
def parse (text : String) : Except ScriptFault (List ScriptStep) :=
  match (Json.parse? text).bind ofJson? with
  | none => .error .malformed
  | some [] => .error .noSteps
  | some steps =>
    let steps := steps.map ScriptStep.tidy
    match steps.findIdx? (·.command.isEmpty) with
    | some index => .error (.emptyStep index)
    | none => .ok steps

end Script

end Chainwalk
