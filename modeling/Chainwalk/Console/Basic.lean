import Chainwalk.Command.Script
import Chainwalk.Config.Document
import Chainwalk.Console.Options
import Chainwalk.Plugin
import Chainwalk.Snapshot.Document

/-!
# The console

The console loads a server, enables the plugin on it and runs commands: those of a script,
or those that come in line by line. Files are read by a function that is handed in, so
that the console itself is the same whatever they come from.

* `Session.start`: the console before its first command, or why there is none;
* `Session.respond`: what a line of the input prints;
* `Session.replay`: what a script prints;
* `Console.run`: a whole run, from the words of the command line to the exit code.
-/

namespace Chainwalk

/-- The console at work. -/
structure Session where
  config : Config
  plugin : Plugin
  store : Store
  /-- Who gives the commands that name no player. -/
  sender : Sender

/-- Why the console does not come to its first command. -/
inductive StartFault
  | unreadable (path : String)
  | malformedSnapshot
  | refused (path : String) (reason : Refusal)
  | offline (player : String)
  | unreadableScript (path : String)
  | script (fault : ScriptFault)

namespace StartFault

/-- The wording of a fault. -/
def message : StartFault → String
  | unreadable path => "reading " ++ path
  | malformedSnapshot => "invalid server snapshot"
  | refused path _ => "loading " ++ path
  | offline player => "player " ++ player ++ " is not online"
  | unreadableScript path => "reading script " ++ path
  | script fault => fault.message

end StartFault

/-- The configuration with the options of the command line in place of its own settings. -/
def Options.overriding (o : Options) (c : Config) : Config :=
  { c with
    trusted := o.trusted || c.trusted
    world := o.world.or c.world
    player := o.player.or c.player }

namespace Session

/-- The player of the given name as sender, or the console itself. -/
def senderFor (realm : Realm) (server : Ref .server) : Option String → Except StartFault Sender
  | none => .ok .console
  | some name =>
    match Sender.player? realm server name with
    | some sender => .ok sender
    | none => .error (.offline name)

/-- The server of a snapshot file, or of the sample. -/
def loadServer (path : Option String) (content : Option String) :
    Except StartFault (Ref .server × Realm) :=
  let load (s : Snapshot) (path : String) : Except StartFault (Ref .server × Realm) :=
    match s.load.run Realm.empty with
    | (.ok server, realm) => .ok (server, realm)
    | (.error reason, _) => .error (.refused path reason)
  match path, content with
  | none, _ => load .sample ""
  | some path, none => .error (.unreadable path)
  | some path, some text =>
    match Snapshot.parse? text with
    | none => .error .malformedSnapshot
    | some s => load s path

/-- The console of a configuration, given the content of its snapshot file. -/
def make (c : Config) (content : Option String) : Except StartFault Session := do
  let (server, realm) ← loadServer c.world content
  let sender ← senderFor realm server c.player
  return ⟨c, (Plugin.make server c.accessPolicy).enable, { Store.empty with realm }, sender⟩

/-- The console of a command line. -/
def start {m : Type → Type} [Monad m] (read : String → m (Option String)) (o : Options) :
    m (Except StartFault Session) := do
  let c := o.overriding (.ofDocument (← read o.config))
  let content ←
    match c.world with
    | some path => read path
    | none => pure none
  return make c content

/-- Lines of text, each ended. -/
def unlines (lines : List String) : String := String.join (lines.map (· ++ "\n"))

variable (s : Session)

/-- Runs the command in a line. -/
def runLine (sender : Sender) (line : String) : String × Session :=
  match Command.parse line with
  | .error fault => (unlines [Plugin.faultLine fault], s)
  | .ok command =>
    let (lines, plugin, store) := s.plugin.execute s.config sender command s.store
    (unlines lines, { s with plugin, store })

/-- Whether a line asks to leave. -/
def isFarewell (line : String) : Bool := line ∈ ["quit", "exit", "/quit", "/exit"]

/-- What a line of the input prints, and the console after it; nothing if it asks to leave. -/
def respond (line : String) : Option (String × Session) :=
  let line := Text.trim line
  if line.isEmpty then some ("", s)
  else if isFarewell line then none
  else some (s.runLine s.sender line)

/-- What the input prints. The prompt stands before each line and before the end. -/
def transcript (s : Session) : List String → String
  | [] => s.config.prompt
  | line :: lines =>
    s.config.prompt ++
      match s.respond line with
      | none => ""
      | some (out, s) => out ++ transcript s lines

/-- What a step of a script prints. A step of a player who is not there is left out. -/
def playStep (step : ScriptStep) : String × Session :=
  match senderFor s.store.realm s.plugin.server (step.player.or s.config.player) with
  | .error fault => (unlines ["Error: " ++ fault.message], s)
  | .ok sender =>
    let (out, after) := s.runLine sender step.command
    (s.config.prompt ++ step.command ++ "\n" ++ out, after)

/-- What a script prints. -/
def replay (s : Session) : List ScriptStep → String
  | [] => ""
  | step :: steps =>
    let (out, s) := s.playStep step
    out ++ replay s steps

/-- What the script in a file prints. -/
def replayFile (path : String) (content : Option String) : Except StartFault String :=
  match content with
  | none => .error (.unreadableScript path)
  | some text =>
    match Script.parse text with
    | .error fault => .error (.script fault)
    | .ok steps => .ok (s.replay steps)

end Session

namespace Console

/-- How a run ends. -/
structure Outcome where
  exitCode : Nat
  /-- What has been printed. -/
  output : String
  /-- Why the run failed. -/
  error : Option String
  deriving DecidableEq, Repr

namespace Outcome

/-- A run without a fault. -/
def success (output : String) : Outcome := ⟨0, output, none⟩

/-- A run that failed. -/
def failure (fault : StartFault) : Outcome := ⟨1, "", some fault.message⟩

/-- How a run ends that the command line stops. -/
def ofStop : Stop → Outcome
  | .help => success Options.help
  | .version => success (Server.version ++ "\n")
  | .misuse m => ⟨2, "", some m.message⟩

end Outcome

/-- The lines of a text. The last one need not be ended. -/
def linesOf (text : String) : List String :=
  let lines := Text.cut '\n' text
  if lines.getLast? = some "" then lines.dropLast else lines

/-- A whole run over an input that is known from the start. -/
def run {m : Type → Type} [Monad m] (read : String → m (Option String)) (words : List String)
    (input : String) : m Outcome := do
  match Options.ofWords words with
  | .error stop => return .ofStop stop
  | .ok o =>
    match ← Session.start read o with
    | .error fault => return .failure fault
    | .ok s =>
      match o.script with
      | none => return .success (s.transcript (linesOf input))
      | some path =>
        match s.replayFile path (← read path) with
        | .error fault => return .failure fault
        | .ok output => return .success output

end Console

end Chainwalk
