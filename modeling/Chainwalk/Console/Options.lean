/-!
# Command-line options

The words of a command line are read from left to right. An option takes its value after
an equals sign or from the next word; asking for help or for the version ends the reading.

* `Options.ofWords`: what the words ask for, or why the reading ends (`Stop`).
-/

namespace Chainwalk

/-- What a command line sets. -/
structure Options where
  /-- The file of the configuration. -/
  config : String
  /-- The file of a script to play in place of the lines of the input. -/
  script : Option String
  trusted : Bool
  world : Option String
  player : Option String
  deriving DecidableEq, Repr

/-- The options that take a value. -/
inductive Setting
  | config
  | script
  | world
  | player
  deriving DecidableEq, Repr

namespace Setting

/-- The name of an option. -/
def name : Setting → String
  | config => "config"
  | script => "script"
  | world => "world"
  | player => "player"

/-- All options that take a value. -/
def all : List Setting := [config, script, world, player]

/-- Whether the value is the path of a file. -/
def isPath : Setting → Bool
  | player => false
  | _ => true

end Setting

/-- Why a command line is refused. -/
inductive Misuse
  | unexpected (word : String)
  | missingValue (option : String)
  | unwantedValue (option value : String)
  | repeated (option : String)

namespace Misuse

/-- The wording of a refusal. -/
def message : Misuse → String
  | unexpected word => "unexpected argument '" ++ word ++ "' found"
  | missingValue option => "a value is required for '--" ++ option ++ "' but none was supplied"
  | unwantedValue option value =>
    "unexpected value '" ++ value ++ "' for '--" ++ option ++ "' found; no more were expected"
  | repeated option => "the argument '--" ++ option ++ "' cannot be used multiple times"

end Misuse

/-- Why the reading of a command line ends before its end. -/
inductive Stop
  | help
  | version
  | misuse (m : Misuse)

namespace Options

/-- The options of a command line without words. -/
def default : Options := ⟨"config/inspect.toml", none, false, none, none⟩

variable (o : Options)

/-- The options with a value set. -/
def assign (value : String) : Setting → Options
  | .config => { o with config := value }
  | .script => { o with script := some value }
  | .world => { o with world := some value }
  | .player => { o with player := some value }

/-- A command line read so far. -/
structure Progress where
  options : Options
  /-- The options that have been set. No option is set twice. -/
  settled : List String
  /-- The option whose value must be the next word. -/
  pending : Option Setting

namespace Progress

variable (p : Progress)

/-- Nothing may be pending where another option begins. -/
def settle : Except Stop Progress :=
  match p.pending with
  | none => .ok p
  | some s => .error (.misuse (.missingValue s.name))

/-- An option has been met. -/
def mark (name : String) : Except Stop Progress :=
  if name ∈ p.settled then .error (.misuse (.repeated name))
  else .ok { p with settled := name :: p.settled, pending := none }

/-- Sets the value of an option; a path must not be empty. -/
def set (s : Setting) (value : String) : Except Stop Progress := do
  if s.isPath && value.isEmpty then throw (.misuse (.missingValue s.name))
  let p ← p.mark s.name
  return { p with options := p.options.assign value s }

/-- Takes an option without a value. -/
def switch (name : String) : Except Stop Progress := do
  let p ← p.settle
  if name = "help" then throw .help
  else if name = "version" then throw .version
  else return { ← p.mark name with options := { p.options with trusted := true } }

/-- Takes a long option, given after two hyphens. -/
def long (word : String) (name : List Char) (value : Option (List Char)) :
    Except Stop Progress := do
  let name := String.ofList name
  match Setting.all.find? (·.name = name), value with
  | some s, some value => (← p.settle).set s (String.ofList value)
  | some s, none => return { ← p.settle with pending := some s }
  | none, value =>
    if name ∈ ["help", "version", "trusted"] then
      match value with
      | none => p.switch name
      | some value => throw (.misuse (.unwantedValue name (String.ofList value)))
    else throw (.misuse (.unexpected word))

/-- Takes one word. -/
def word (w : String) : Except Stop Progress :=
  match w.toList with
  | '-' :: '-' :: cs =>
    let name := cs.takeWhile (· != '=')
    match cs.dropWhile (· != '=') with
    | '=' :: value => p.long w name (some value)
    | _ => p.long w name none
  | '-' :: c :: _ =>
    if c = 'h' then p.switch "help"
    else if c = 'V' then p.switch "version"
    else .error (.misuse (.unexpected w))
  | _ =>
    match p.pending with
    | some s => p.set s w
    | none => .error (.misuse (.unexpected w))

/-- Takes words up to two hyphens, after which no word may come. -/
def words (p : Progress) : List String → Except Stop Progress
  | [] => p.settle
  | "--" :: [] => p.settle
  | "--" :: w :: _ => .error (.misuse (.unexpected w))
  | w :: ws => do words (← p.word w) ws

end Progress

/-- What the words of a command line ask for. -/
def ofWords (ws : List String) : Except Stop Options :=
  Progress.options <$> (Progress.mk default [] none).words ws

/-- The text of help. -/
def help : String :=
  "Walk method chains over a running game server\n\n" ++
  "Usage: mdinspect [OPTIONS]\n\n" ++
  "Options:\n" ++
  "      --config <CONFIG>  Configuration file [default: config/inspect.toml]\n" ++
  "      --script <SCRIPT>  JSON command script to replay instead of reading stdin\n" ++
  "      --trusted          Allow calling internal methods on every class\n" ++
  "      --world <WORLD>    Server snapshot (JSON) to load instead of the built-in sample\n" ++
  "      --player <PLAYER>  Act as this online player instead of the console\n" ++
  "  -h, --help             Print help\n" ++
  "  -V, --version          Print version\n"

end Options

end Chainwalk
