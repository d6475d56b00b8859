import Chainwalk.Console.Basic

/-!
# The program

Reads files and the input line by line, prints what the console answers, and leaves with
its exit code.
-/

namespace Chainwalk

namespace Program

/-- The content of a file, if it can be read. -/
def readFile (path : String) : IO (Option String) := do
  try
    return some (← IO.FS.readFile path)
  catch _ => return none

/-- Prints a text at once. -/
def say (text : String) : IO Unit := do
  let out ← IO.getStdout
  out.putStr text
  out.flush

/-- Reports a fault and gives the exit code. -/
def fail (code : UInt32) (message : String) : IO UInt32 := do
  IO.eprintln message
  return code

/-- Answers the lines of the input up to its end. -/
partial def converse (s : Session) : IO Unit := do
  say s.config.prompt
  let line ← (← IO.getStdin).getLine
  if line.isEmpty then return ()
  match s.respond line with
  | none => return ()
  | some (out, s) =>
    say out
    converse s

/-- Runs the program with the words of its command line. -/
def run (words : List String) : IO UInt32 := do
  match Options.ofWords words with
  | .error (.misuse m) => fail 2 ("error: " ++ m.message)
  | .error stop =>
    say (Console.Outcome.ofStop stop).output
    return 0
  | .ok o =>
    match ← Session.start readFile o with
    | .error fault => fail 1 ("Error: " ++ fault.message)
    | .ok s =>
      match o.script with
      | none =>
        converse s
        return 0
      | some path =>
        match s.replayFile path (← readFile path) with
        | .error fault => fail 1 ("Error: " ++ fault.message)
        | .ok output =>
          say output
          return 0

end Program

end Chainwalk

def main (words : List String) : IO UInt32 := Chainwalk.Program.run words
