import Chainwalk.Access

/-!
# Configuration

What a user can set: who may call internal methods, how output is cut, and what the
console starts from.
-/

namespace Chainwalk

/-- What a user can set. -/
structure Config where
  /-- Which log messages are shown. -/
  logLevel : String
  /-- Whether every internal method may be called. -/
  trusted : Bool
  /-- The paths of the classes whose internal methods may be called otherwise. -/
  allowedClasses : List String
  /-- The number of characters after which a result is cut; zero for none. -/
  maxOutputChars : Nat
  prompt : String
  /-- The file of the snapshot to load, in place of the sample. -/
  world : Option String
  /-- The player that the console acts as. -/
  player : Option String
  deriving DecidableEq, Repr

namespace Config

/-- The configuration of a user who has set nothing. -/
def default : Config := ⟨"warn", false, [], 2000, "> ", none, none⟩

variable (c : Config)

/-- Who may call internal methods. -/
def accessPolicy : AccessPolicy := if c.trusted then .trusted else .allowing c.allowedClasses

/-- What stands at the end of a text that was cut. -/
def cutMark : String := "... (truncated)"

/-- The text, cut after the configured number of characters. -/
def truncate (text : String) : String :=
  if c.maxOutputChars = 0 || text.length ≤ c.maxOutputChars then text
  else String.ofList (text.toList.take c.maxOutputChars) ++ cutMark

end Config

end Chainwalk
