/-!
# Pieces of a text

Cutting a text at a separating character and joining texts again. A text always
has one piece more than it has separators, so the empty text has one empty piece.
-/

namespace Chainwalk

namespace Text

/-- The pieces of `cs` between the occurrences of `sep`, with the piece begun so
    far first. -/
def pieces (sep : Char) : List Char → List (List Char)
  | [] => [[]]
  | c :: cs =>
    if c = sep then [] :: pieces sep cs
    else
      match pieces sep cs with
      | [] => [[c]]
      | p :: ps => (c :: p) :: ps

/-- The pieces of a text between the occurrences of `sep`. -/
def cut (sep : Char) (s : String) : List String := (pieces sep s.toList).map String.ofList

/-- The parts of a text before and after the first `sep`, when it has one. -/
def cutOnce (sep : Char) (s : String) : Option (String × String) :=
  match s.toList.dropWhile (· != sep) with
  | [] => none
  | _ :: after => some (String.ofList (s.toList.takeWhile (· != sep)), String.ofList after)

/-- The rest of a text that begins with `c`. -/
def afterFirst (c : Char) (s : String) : Option String :=
  match s.toList with
  | d :: rest => if d = c then some (String.ofList rest) else none
  | [] => none

/-- The text less one bracket at each end, when it has both; the text itself
    otherwise. -/
def unbracketed (cs : List Char) : List Char :=
  match cs with
  | '[' :: rest =>
    match rest.getLast? with
    | some ']' => rest.dropLast
    | _ => cs
  | _ => cs

/-- The texts in brackets, separated by a comma and a space. -/
def bracketed (items : List String) : String := "[" ++ ", ".intercalate items ++ "]"

/-- Whether `part` occurs in `cs` as a run of consecutive characters. -/
def occursIn (part : List Char) : List Char → Bool
  | [] => part.isEmpty
  | c :: cs => part.isPrefixOf (c :: cs) || occursIn part cs

@[simp] theorem pieces_nil (sep : Char) : pieces sep [] = [[]] := rfl

theorem pieces_ne_nil (sep : Char) (cs : List Char) : pieces sep cs ≠ [] := by
  cases cs with
  | nil => simp
  | cons c cs =>
    rw [pieces]
    split
    · simp
    · split <;> simp

end Text

end Chainwalk
