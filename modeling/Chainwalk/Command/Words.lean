import Chainwalk.Text.Blank

/-!
# Words of a command line

A command line is cut into words at blanks. Double quotes group what stands between
them, blanks included, and are not part of the word; a pair of quotes with nothing between
them still makes a word.
-/

namespace Chainwalk

namespace Words

/-- The words of the characters that are left. `quoted` says whether a quote is open,
    and `current` is the word begun so far, in reverse. -/
def cutFrom : Bool → Option (List Char) → List Char → Option (List (List Char))
  | true, _, [] => none
  | false, none, [] => some []
  | false, some w, [] => some [w.reverse]
  | quoted, current, c :: cs =>
    if c = '"' then cutFrom (!quoted) (some (current.getD [])) cs
    else if Text.isBlank c && !quoted then
      match current with
      | none => cutFrom quoted none cs
      | some w => (cutFrom quoted none cs).map (w.reverse :: ·)
    else cutFrom quoted (some (c :: current.getD [])) cs

/-- The words of a line; nothing if a quote is left open. -/
def cut (line : List Char) : Option (List (List Char)) := cutFrom false none line

/-- The words of a line as texts. -/
def ofLine? (line : String) : Option (List String) :=
  (cut line.toList).map fun words => words.map String.ofList

end Words

end Chainwalk
