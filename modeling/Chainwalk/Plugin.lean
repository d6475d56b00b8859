import Chainwalk.Chain
import Chainwalk.Command.Basic
import Chainwalk.Config.Basic
import Chainwalk.Conversion.Plain
import Chainwalk.Conversion.Residents
import Chainwalk.Method.Catalog

/-!
# The plugin

The plugin runs commands on a server. Enabling it registers the handlers, disabling it
drops them, together with the method indices looked up so far.

* `Plugin.enable`, `Plugin.disable`: the two states;
* `Plugin.execute`: a command, with the lines it prints.
-/

namespace Chainwalk

/-- The plugin of a server. -/
structure Plugin where
  server : Ref .server
  registry : Registry
  /-- The classes whose method indices have been looked up, each once. -/
  consulted : List Class
  access : AccessPolicy
  enabled : Bool

namespace Plugin

/-- A plugin that is not enabled yet. -/
def make (server : Ref .server) (access : AccessPolicy) : Plugin :=
  ⟨server, .empty, [], access, false⟩

variable (p : Plugin)

/-- The plugin with its handlers registered. -/
def enable : Plugin :=
  if p.enabled then p
  else { p with registry := (p.registry.withPlain.registerResidents p.server).2, enabled := true }

/-- The plugin without handlers and method indices. -/
def disable : Plugin :=
  if p.enabled then { p with registry := .empty, consulted := [], enabled := false } else p

/-- The plugin after looking up the method indices of some classes. -/
def consult (classes : List Class) : Plugin :=
  { p with consulted := MethodIndex.known p.consulted classes }

/-- What a chain of a sender is walked with. -/
def engine (sender : Sender) : Engine := ⟨.builtins, p.registry, p.access, some sender⟩

/-- The object that a literal stands for, as a target. -/
def lookUp (sender : Sender) (c : Class) (literal : String) : Attempt Value :=
  p.registry.attempt .builtins (some sender) c literal

/-- What a target stands for. -/
def lookUpTarget (sender : Sender) : Target → Attempt Value
  | .sender => return sender.subject
  | .server => return some (.server p.server)
  | .player name => p.lookUp sender .player name
  | .world name => p.lookUp sender .world name
  | .entity key => p.lookUp sender .entity key
  | .block position => p.lookUp sender .block position

/-- The object that a command starts from. -/
def resolve (sender : Sender) (target : Target) (s : Store) : Except CommandFault Object × Store :=
  match p.lookUpTarget sender target s with
  | (.error fault, s) => (.error (.invalidTarget target fault.message), s)
  | (.ok none, s) => (.error (.nullTarget target sender.name), s)
  | (.ok (some o), s) => (.ok o, s)

/-- The line of a fault. -/
def faultLine (fault : CommandFault) : String := "Error: " ++ fault.message

/-- What a chain prints: its result, if it is not null, or how it failed. -/
def report (c : Config) (r : Run) : List String :=
  match r.outcome with
  | .ok v => ((p.registry.format? .builtins r.store.realm v).map c.truncate).toList
  | .error halt => [halt.kind ++ ": " ++ halt.reason]

/-- Runs a command: the lines it prints, and what becomes of plugin and store. -/
def execute (c : Config) (sender : Sender) (command : Command) (s : Store) :
    List String × Plugin × Store :=
  if !p.enabled && command ≠ .reload && command ≠ .help then
    (["Error: debug plugin is disabled"], p, s)
  else
    match command with
    | .help => (Command.helpLines, p, s)
    | .reload => (["Reloaded"], p.disable.enable, s)
    | .inspect target =>
      match p.resolve sender target s with
      | (.error fault, s) => ([faultLine fault], p, s)
      | (.ok o, s) =>
        ([c.truncate (p.registry.formatObject .builtins s.realm o),
          "class " ++ Hierarchy.builtins.path o.class_], p, s)
    | .methods target start =>
      match p.resolve sender target s with
      | (.error fault, s) => ([faultLine fault], p, s)
      | (.ok o, s) =>
        let index := MethodIndex.build .builtins o.class_
        let signatures :=
          match start with
          | some start => index.startingWith start
          | none => index.signatures
        let lines :=
          if signatures.isEmpty then ["No methods on " ++ Hierarchy.builtins.name o.class_]
          else signatures
        (lines, p.consult [o.class_], s)
    | .chain target tokens =>
      match p.resolve sender target s with
      | (.error fault, s) => ([faultLine fault], p, s)
      | (.ok o, s) =>
        let r := (p.engine sender).run tokens (some o) s
        (p.report c r, p.consult r.consulted, r.store)

end Plugin

end Chainwalk
