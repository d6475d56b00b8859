import Chainwalk.Text.Hexadecimal

/-!
# Texts in TOML

A text stands between double or single quotation marks, one or three of them. Between
double marks a backslash begins an escape; between three marks a text may go over lines.

* `QuoteForm.scan`: reading a text of a form up to its closing mark;
* `Toml.quote`: writing a text, in the first of the forms that needs no escapes.
-/

namespace Chainwalk

namespace Toml

/-- Whether a character may stand in a line of a document. -/
def isLineChar (c : Char) : Bool := c = '\t' || (' ' ≤ c && c != '\x7f')

/-- The way in which a text is quoted. -/
structure QuoteForm where
  mark : Char
  /-- Whether a backslash begins an escape. -/
  escapes : Bool
  /-- Whether there are three marks, and line breaks between them. -/
  multiline : Bool
  deriving DecidableEq, Repr

namespace QuoteForm

/-- Between double marks. -/
def basic : QuoteForm := ⟨'"', true, false⟩

/-- Between single marks. -/
def literal : QuoteForm := ⟨'\'', false, false⟩

/-- Between three double marks. -/
def basicLines : QuoteForm := ⟨'"', true, true⟩

/-- Between three single marks. -/
def literalLines : QuoteForm := ⟨'\'', false, true⟩

/-- What the reading is in the middle of; characters so far are in reverse. -/
inductive State
  | body (cs : List Char)
  /-- After some marks that may or may not close the text. -/
  | marks (cs : List Char) (count : Nat)
  /-- After a backslash. -/
  | escape (cs : List Char)
  /-- In the digits of a code: how many are to come, and their value. -/
  | code (cs : List Char) (left value : Nat)
  /-- In the blanks that a backslash takes out, before or after the end of the line. -/
  | gap (cs : List Char) (broken : Bool)

/-- The character that a letter after a backslash stands for. -/
def escapeChar? (c : Char) : Option Char :=
  if c = '"' || c = '\\' then some c
  else if c = 'b' then some '\x08'
  else if c = 't' then some '\t'
  else if c = 'n' then some '\n'
  else if c = 'f' then some '\x0c'
  else if c = 'r' then some '\r'
  else none

variable (f : QuoteForm)

/-- Takes one character of a text. -/
def bodyStep (cs : List Char) (c : Char) : Option State :=
  if c = '\\' && f.escapes then some (.escape cs)
  else if isLineChar c || (c = '\n' && f.multiline) then some (.body (c :: cs))
  else none

/-- Takes one character, which closes no text. -/
def step (c : Char) : State → Option State
  | .body cs => if c = f.mark then some (.marks cs 1) else f.bodyStep cs c
  | .marks cs count =>
    if c = f.mark then some (.marks cs (count + 1))
    else f.bodyStep (List.replicate count f.mark ++ cs) c
  | .escape cs =>
    if c = 'u' then some (.code cs 4 0)
    else if c = 'U' then some (.code cs 8 0)
    else if f.multiline && c = '\n' then some (.gap cs true)
    else if f.multiline && (c = ' ' || c = '\t') then some (.gap cs false)
    else (escapeChar? c).map fun d => .body (d :: cs)
  | .code cs left value =>
    match Text.hexDigit? c with
    | none => none
    | some d =>
      let value := 16 * value + d
      if left ≤ 1 then
        if value.isValidChar then some (.body (Char.ofNat value :: cs)) else none
      else some (.code cs (left - 1) value)
  | .gap cs broken =>
    if c = '\n' then some (.gap cs true)
    else if c = ' ' || c = '\t' then some (.gap cs broken)
    else if !broken then none
    else if c = f.mark then some (.marks cs 1)
    else f.bodyStep cs c

/-- How many marks close a text. -/
def closing : Nat := if f.multiline then 3 else 1

/-- The text that is closed, if it is: marks beyond the closing ones belong to the text, up
    to two of them. -/
def closed? (next : Option Char) : State → Option (List Char)
  | .marks cs count =>
    if f.closing ≤ count && (next != some f.mark || !f.multiline || count = 5) then
      some (List.replicate (count - f.closing) f.mark ++ cs).reverse
    else none
  | _ => none

/-- The text up to the closing marks, and what comes after them. -/
def scan : State → List Char → Option (List Char × List Char)
  | s, [] => (f.closed? none s).map (·, [])
  | s, c :: cs =>
    match f.closed? (some c) s with
    | some found => some (found, c :: cs)
    | none =>
      match f.step c s with
      | some s => scan s cs
      | none => none

end QuoteForm

/-- A text in any of the forms. A line break right after three marks is not part of it. -/
def quotedText? : List Char → Option (List Char × List Char)
  | '"' :: '"' :: '"' :: '\n' :: cs => QuoteForm.basicLines.scan (.body []) cs
  | '"' :: '"' :: '"' :: cs => QuoteForm.basicLines.scan (.body []) cs
  | '"' :: cs => QuoteForm.basic.scan (.body []) cs
  | '\'' :: '\'' :: '\'' :: '\n' :: cs => QuoteForm.literalLines.scan (.body []) cs
  | '\'' :: '\'' :: '\'' :: cs => QuoteForm.literalLines.scan (.body []) cs
  | '\'' :: cs => QuoteForm.literal.scan (.body []) cs
  | _ => none

/-! ## Writing -/

/-- The most marks that follow one another. -/
def longestRun (mark : Char) (cs : List Char) : Nat :=
  (cs.foldl (fun (best, run) c => if c = mark then (max best (run + 1), run + 1) else (best, 0))
    (0, 0)).1

/-- Whether a character can be written by its code only. -/
def needsCode (c : Char) : Bool := (c < ' ' && c != '\t' && c != '\n') || c = '\x7f'

/-- The form that a text is written in: on one line if it has one line, and without escapes
    where possible. -/
def chooseForm (cs : List Char) : QuoteForm :=
  let coded := cs.any needsCode
  let lines := cs.contains '\n'
  let doubles := longestRun '"' cs
  let singles := longestRun '\'' cs
  let slashes := cs.contains '\\'
  if !coded && !slashes && doubles = 0 && !lines then .basic
  else if !coded && singles = 0 && !lines then .literal
  else if !coded && !slashes && doubles ≤ 2 then .basicLines
  else if !coded && singles ≤ 2 then .literalLines
  else if lines then .basicLines
  else .basic

/-- The escape of a character that does not stand for itself between double marks. -/
def escaped (c : Char) : List Char :=
  if c = '\x08' then ['\\', 'b']
  else if c = '\t' then ['\\', 't']
  else if c = '\n' then ['\\', 'n']
  else if c = '\x0c' then ['\\', 'f']
  else if c = '\r' then ['\\', 'r']
  else
    let hex := (Text.hexCode c).map Char.toUpper
    '\\' :: 'u' :: List.replicate (4 - hex.length) '0' ++ hex

/-- The characters of a text between double marks, after `run` of them that stand for
    themselves, of which there may be `allowed` in a row. -/
def escapeAll (allowed : Nat) (lines : Bool) : Nat → List Char → List Char
  | _, [] => []
  | run, c :: cs =>
    if c = '"' then
      if run < allowed then c :: escapeAll allowed lines (run + 1) cs
      else '\\' :: c :: escapeAll allowed lines 0 cs
    else if c = '\\' then '\\' :: c :: escapeAll allowed lines 0 cs
    else if c = '\n' && lines then c :: escapeAll allowed lines 0 cs
    else if c < ' ' || c = '\x7f' then escaped c ++ escapeAll allowed lines 0 cs
    else c :: escapeAll allowed lines 0 cs

/-- A text as it is written. -/
def quote (s : String) : String :=
  let cs := s.toList
  let f := chooseForm cs
  let marks := List.replicate f.closing f.mark
  let start := if f.multiline && cs.contains '\n' then ['\n'] else []
  let inner := if f.escapes then escapeAll (f.closing - 1) f.multiline 0 cs else cs
  String.ofList (marks ++ start ++ inner ++ marks)

end Toml

end Chainwalk
