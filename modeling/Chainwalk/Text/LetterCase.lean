import Chainwalk.Text.CaseTable

/-!
# Letter case

Capital and small forms of whole texts. A letter may become several characters,
and a capital sigma at the end of a word becomes the final small sigma.
-/

namespace Chainwalk

namespace Text

/-- The image of a character under a table of runs and a table of expansions. -/
def mapCase (runs : List CaseRun) (expansions : List (Nat × List Nat)) (c : Char) : List Char :=
  match runs.find? (·.covers c.toNat) with
  | some r => [Char.ofNat (c.toNat + r.shift).toNat]
  | none =>
    match expansions.lookup c.toNat with
    | some ns => ns.map Char.ofNat
    | none => [c]

/-- The capital form of one character. -/
def upperChar (c : Char) : List Char := mapCase upperRuns upperExpansions c

/-- The small form of one character, whatever stands around it. -/
def lowerChar (c : Char) : List Char := mapCase lowerRuns lowerExpansions c

/-- Whether a character has the property Cased. -/
def isCased (c : Char) : Bool := casedRanges.any fun r => r.1 ≤ c.toNat && c.toNat ≤ r.2

/-- Whether a character has the property Case_Ignorable. -/
def isCaseIgnorable (c : Char) : Bool :=
  caseIgnorableRanges.any fun r => r.1 ≤ c.toNat && c.toNat ≤ r.2

/-- Whether the first character that is not case-ignorable is cased. -/
def meetsCased (cs : List Char) : Bool := (cs.dropWhile isCaseIgnorable).head?.any isCased

/-- The small form of `cs`, given the characters before it, nearest first. -/
def lowerAfter (before : List Char) : List Char → List Char
  | [] => []
  | c :: cs =>
    (if c = 'Σ' && meetsCased before && !meetsCased cs then ['ς'] else lowerChar c) ++
      lowerAfter (c :: before) cs

/-- A text in capitals. -/
def toUpper (s : String) : String := String.ofList (s.toList.flatMap upperChar)

/-- A text in small letters. -/
def toLower (s : String) : String := String.ofList (lowerAfter [] s.toList)

end Text

end Chainwalk
