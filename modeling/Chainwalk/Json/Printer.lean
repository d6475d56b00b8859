import Chainwalk.Number.Layout

/-!
# Writing documents

Documents are written over many lines: every element and every field on a line of its
own, two blanks further in than its container. A container without content is written
as its two brackets.
-/

namespace Chainwalk

namespace Json

/-- A document to be written. -/
inductive Outline
  /-- Something that is written as it is. -/
  | word (s : String)
  | list (items : List Outline)
  | record (fields : List (String × Outline))

/-- A character as it stands in a text of a document. -/
def escapeChar (c : Char) : List Char :=
  if c = '"' then ['\\', '"']
  else if c = '\\' then ['\\', '\\']
  else if c = '\x08' then ['\\', 'b']
  else if c = '\x0c' then ['\\', 'f']
  else if c = '\n' then ['\\', 'n']
  else if c = '\r' then ['\\', 'r']
  else if c = '\t' then ['\\', 't']
  else if c.toNat < 0x20 then
    ['\\', 'u', '0', '0'] ++ Nat.toDigits 16 (c.toNat / 16) ++ Nat.toDigits 16 (c.toNat % 16)
  else [c]

/-- A text in quotes. -/
def quote (s : String) : String := String.ofList ('"' :: s.toList.flatMap escapeChar ++ ['"'])

namespace Outline

/-- A text. -/
def text (s : String) : Outline := word (quote s)

/-- A natural number. -/
def nat (n : Nat) : Outline := word (toString n)

/-- A whole number. -/
def int (n : Int) : Outline := word (toString n)

/-- A fraction. -/
def double (x : Float) : Outline := word (Layout.json.double x)

/-- A value or null. -/
def optional {α : Type} (f : α → Outline) (v : Option α) : Outline := (v.map f).getD (word "null")

/-- A new line with the text after `depth` steps of indentation. -/
def line (depth : Nat) (s : String) : String :=
  "\n" ++ String.ofList (List.replicate (2 * depth) ' ') ++ s

/-- Lines between two brackets, or the brackets alone. -/
def enclosed (opening closing : String) (depth : Nat) (lines : List String) : String :=
  if lines.isEmpty then opening ++ closing
  else opening ++ ",".intercalate (lines.map (line (depth + 1))) ++ line depth closing

mutual

/-- A document whose lines stand `depth` steps in. -/
def printAt (depth : Nat) : Outline → String
  | word s => s
  | list items => enclosed "[" "]" depth (printItems (depth + 1) items)
  | record fields => enclosed "\x7b" "\x7d" depth (printFields (depth + 1) fields)

/-- The elements of a list. -/
def printItems (depth : Nat) : List Outline → List String
  | [] => []
  | o :: os => printAt depth o :: printItems depth os

/-- The fields of a record. -/
def printFields (depth : Nat) : List (String × Outline) → List String
  | [] => []
  | (key, o) :: fs => (quote key ++ ": " ++ printAt depth o) :: printFields depth fs

end

/-- The text of a document. -/
def print (o : Outline) : String := printAt 0 o

end Outline

end Json

end Chainwalk
