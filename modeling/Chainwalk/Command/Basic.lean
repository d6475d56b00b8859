import Chainwalk.Command.Words
import Chainwalk.Text.Ascii
import Chainwalk.Text.Pieces

/-!
# Commands

A `Command` asks something of a `Target`, or of the plugin itself. `Command.parse` reads
one from a line, and `CommandFault` says why a line is none.
-/

namespace Chainwalk

/-- The object that a command starts from. -/
inductive Target
  /-- The object that stands for the sender. -/
  | sender
  | server
  | player (name : String)
  | world (name : String)
  /-- An entity by number or name. -/
  | entity (key : String)
  | block (position : String)
  deriving DecidableEq, Repr

/-- What is asked for. -/
inductive Command
  | help
  | chain (target : Target) (tokens : List String)
  | methods (target : Target) (start : Option String)
  | inspect (target : Target)
  | reload
  deriving DecidableEq, Repr

/-- Why a line is no command, or a command has no target. -/
inductive CommandFault
  | openQuote
  | unknownTarget (token : String)
  | missingValue (kind : String)
  | unknownTargetKind (kind : String)
  | chainUsage
  | methodsUsage
  | inspectUsage
  | unknownCommand (name : String)
  | invalidTarget (target : Target) (reason : String)
  | nullTarget (target : Target) (sender : String)

namespace Target

/-- The target as it is written. -/
def text : Target → String
  | sender => "self"
  | server => "server"
  | player name => "player:" ++ name
  | world name => "world:" ++ name
  | entity key => "entity:" ++ key
  | block position => "block:" ++ position

/-- The target that a word stands for. -/
def parse (word : String) : Except CommandFault Target :=
  let lower := Text.lowerAscii word
  if lower = "self" || lower = "me" then .ok sender
  else if lower = "server" then .ok server
  else
    match Text.cutOnce ':' word with
    | none => .error (.unknownTarget word)
    | some (kind, value) =>
      let k := Text.lowerAscii kind
      if value.isEmpty then .error (.missingValue kind)
      else if k = "player" || k = "p" then .ok (player value)
      else if k = "world" || k = "w" then .ok (world value)
      else if k = "entity" || k = "e" then .ok (entity value)
      else if k = "block" || k = "b" then .ok (block value)
      else .error (.unknownTargetKind kind)

end Target

namespace CommandFault

/-- The wording of a fault. -/
def message : CommandFault → String
  | openQuote => "Unterminated quote"
  | unknownTarget token => "Unknown target: " ++ token
  | missingValue kind => "Missing value for target " ++ kind ++ ":"
  | unknownTargetKind kind => "Unknown target kind: " ++ kind
  | chainUsage => "Usage: /chain <target> [tokens...]"
  | methodsUsage => "Usage: /methods <target> [prefix]"
  | inspectUsage => "Usage: /inspect <target>"
  | unknownCommand name => "Unknown command: " ++ name ++ ". Try /help"
  | invalidTarget target reason => "Invalid target " ++ target.text ++ ": " ++ reason
  | nullTarget target sender => "Target " ++ target.text ++ " is null for " ++ sender

end CommandFault

namespace Command

/-- The command that the words of a line stand for. No word asks for help. -/
def ofWords : List String → Except CommandFault Command
  | [] => .ok help
  | name :: args =>
    let name := Text.lowerAscii name
    if name = "help" || name = "?" then .ok help
    else if name = "chain" || name = "c" then
      match args with
      | [] => .error .chainUsage
      | target :: tokens => do return chain (← Target.parse target) tokens
    else if name = "methods" || name = "m" then
      match args with
      | [target] => do return methods (← Target.parse target) none
      | [target, start] => do return methods (← Target.parse target) (some start)
      | _ => .error .methodsUsage
    else if name = "inspect" || name = "i" then
      match args with
      | [target] => do return inspect (← Target.parse target)
      | _ => .error .inspectUsage
    else if name = "reload" then .ok reload
    else .error (.unknownCommand name)

/-- The command that a line stands for. A slash in front does not count. -/
def parse (line : String) : Except CommandFault Command :=
  let line := Text.trim line
  let line := Text.trim ((Text.afterFirst '/' line).getD line)
  match Words.ofLine? line with
  | none => .error .openQuote
  | some words => ofWords words

/-- The lines that help prints. -/
def helpLines : List String :=
  [ "Commands:",
    "  /chain <target> [method args...]...  walk methods starting at target",
    "    methods are named by signature, e.g. getName() or getBlockAt(int,int,int)",
    "  /methods <target> [prefix]           list callable signatures",
    "  /inspect <target>                    print target and its class",
    "  /reload                              re-register converters",
    "  /help",
    "Targets: self, server, player:<name>, world:<name>, entity:<#id|name>, block:[world,]x,y,z",
    "Quote arguments containing spaces; \\null\\ passes null." ]

end Command

end Chainwalk
