import Chainwalk.Config.Basic
import Chainwalk.Toml.Reading

/-!
# Configurations as documents

A configuration is kept as a TOML document with a line for each setting. Settings that
the document leaves out are as in the default configuration; unknown keys are left alone.
A document with any fault counts as no document.
-/

namespace Chainwalk

namespace Config

/-- The setting under a key: the default when the key is absent, nothing when its value is of
    another kind. -/
def setting? {α : Type} (es : Toml.Entries) (key : String) (ofToml? : Toml → Option α)
    (default : α) : Option α :=
  match es.lookup key with
  | none => some default
  | some v => ofToml? v

/-- A text. -/
def text? : Toml → Option String
  | .text s => some s
  | _ => none

/-- A truth value. -/
def boolean? : Toml → Option Bool
  | .boolean b => some b
  | _ => none

/-- A natural number. -/
def nat? : Toml → Option Nat
  | .integer n => if 0 ≤ n then some n.toNat else none
  | _ => none

/-- A list of texts. -/
def texts? : Toml → Option (List String)
  | .array vs => vs.mapM text?
  | _ => none

/-- The configuration that the entries of a document set. -/
def ofEntries? (es : Toml.Entries) : Option Config := do
  return {
    logLevel := ← setting? es "log_level" text? default.logLevel
    trusted := ← setting? es "trusted" boolean? default.trusted
    allowedClasses := ← setting? es "allowed_classes" texts? default.allowedClasses
    maxOutputChars := ← setting? es "max_output_chars" nat? default.maxOutputChars
    prompt := ← setting? es "prompt" text? default.prompt
    world := ← setting? es "world" (fun v => (text? v).map some) default.world
    player := ← setting? es "player" (fun v => (text? v).map some) default.player }

/-- The configuration of a document, or the default one. -/
def ofDocument (document : Option String) : Config :=
  (do ofEntries? (← Toml.parse? (← document))).getD default

/-- A list of texts as it is written: over many lines if there are two or more. -/
def writeTexts : List String → String
  | [] => "[]"
  | [s] => "[" ++ Toml.quote s ++ "]"
  | ss => "[\n" ++ String.join (ss.map fun s => "    " ++ Toml.quote s ++ ",\n") ++ "]"

/-- A setting in a line of its own. -/
def line (key value : String) : String := key ++ " = " ++ value ++ "\n"

/-- The document of a configuration. -/
def print (c : Config) : String :=
  String.join
    ([line "log_level" (Toml.quote c.logLevel),
      line "trusted" (if c.trusted then "true" else "false"),
      line "allowed_classes" (writeTexts c.allowedClasses),
      line "max_output_chars" (toString c.maxOutputChars),
      line "prompt" (Toml.quote c.prompt)] ++
    (c.world.map fun w => line "world" (Toml.quote w)).toList ++
    (c.player.map fun p => line "player" (Toml.quote p)).toList)

end Config

end Chainwalk
