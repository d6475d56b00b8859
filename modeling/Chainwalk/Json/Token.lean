import Chainwalk.Text.Hexadecimal

/-!
# Tokens of documents

A document is cut into tokens by an automaton that takes one character at a time:
brackets, separators, words, texts and numerals. A text is kept as it is written,
escape by escape, because whether its escapes make up characters matters only to whoever
reads it.
-/

namespace Chainwalk

namespace Json

/-- A piece of a text: a character, or a unit of 16 bits given by its number. -/
inductive TextUnit
  | char (c : Char)
  | code (n : Nat)
  deriving DecidableEq, Repr

/-- The characters that the units of a text make up. The halves of a character must
    follow one another, the high one first. -/
def decodeUnits : List TextUnit → Option (List Char)
  | [] => some []
  | .char c :: us => (decodeUnits us).map (c :: ·)
  | .code hi :: .code lo :: us =>
    if 0xD800 ≤ hi && hi < 0xDC00 then
      if 0xDC00 ≤ lo && lo < 0xE000 then
        (decodeUnits us).map (Char.ofNat (0x10000 + (hi - 0xD800) * 0x400 + (lo - 0xDC00)) :: ·)
      else none
    else if 0xDC00 ≤ hi && hi < 0xE000 then none
    else (decodeUnits (.code lo :: us)).map (Char.ofNat hi :: ·)
  | .code n :: us =>
    if 0xD800 ≤ n && n < 0xE000 then none else (decodeUnits us).map (Char.ofNat n :: ·)

/-- A numeral by its parts, as it is written. -/
structure Numeral where
  negative : Bool
  whole : List Char
  /-- The digits after the point. -/
  places : Option (List Char)
  /-- Whether the exponent is negative, and its digits. -/
  exponent : Option (Bool × List Char)
  deriving DecidableEq, Repr

namespace Numeral

/-- The exponent of a numeral from its sign on. -/
def exponentOf? (cs : List Char) : Option (Bool × List Char) :=
  let (negative, ds) :=
    match cs with
    | '-' :: ds => (true, ds)
    | '+' :: ds => (false, ds)
    | ds => (false, ds)
  if !ds.isEmpty && ds.all Char.isDigit then some (negative, ds) else none

/-- A numeral from its characters: no zeros in front, and digits wherever the form asks
    for them. -/
def ofChars? (cs : List Char) : Option Numeral := do
  let (negative, cs) :=
    match cs with
    | '-' :: cs => (true, cs)
    | cs => (false, cs)
  let whole := cs.takeWhile Char.isDigit
  guard (!whole.isEmpty && (whole.head? != some '0' || whole.length == 1))
  let (places, rest) ←
    match cs.dropWhile Char.isDigit with
    | '.' :: r =>
      let ds := r.takeWhile Char.isDigit
      if ds.isEmpty then none else some (some ds, r.dropWhile Char.isDigit)
    | r => some (none, r)
  match rest with
  | [] => some ⟨negative, whole, places, none⟩
  | c :: r =>
    if c = 'e' || c = 'E' then (exponentOf? r).map fun e => ⟨negative, whole, places, some e⟩
    else none

end Numeral

/-- A token of a document. -/
inductive Token
  | openBrace
  | closeBrace
  | openBracket
  | closeBracket
  | colon
  | comma
  | null
  | bool (b : Bool)
  | number (n : Numeral)
  | text (units : List TextUnit)
  deriving DecidableEq, Repr

/-- What the automaton is in the middle of; characters so far are in reverse. -/
inductive LexState
  | between
  | word (cs : List Char)
  | numeral (cs : List Char)
  | text (units : List TextUnit)
  /-- After a backslash. -/
  | escape (units : List TextUnit)
  /-- In the four digits of a code: how many have come, and their value. -/
  | code (units : List TextUnit) (count value : Nat)

/-- The token of a bare word. -/
def wordToken? (cs : List Char) : Option Token :=
  if cs = ['n', 'u', 'l', 'l'] then some .null
  else if cs = ['t', 'r', 'u', 'e'] then some (.bool true)
  else if cs = ['f', 'a', 'l', 's', 'e'] then some (.bool false)
  else none

/-- The token of a single character. -/
def punctuation? (c : Char) : Option Token :=
  if c = '\x7b' then some .openBrace
  else if c = '\x7d' then some .closeBrace
  else if c = '[' then some .openBracket
  else if c = ']' then some .closeBracket
  else if c = ':' then some .colon
  else if c = ',' then some .comma
  else none

/-- Whether a character separates tokens and means nothing else. -/
def isSpace (c : Char) : Bool := c = ' ' || c = '\n' || c = '\t' || c = '\r'

/-- Takes a character that begins something new. -/
def beginToken (c : Char) : Option (List Token × LexState) :=
  if isSpace c then some ([], .between)
  else if c = '"' then some ([], .text [])
  else if c = '-' || c.isDigit then some ([], .numeral [c])
  else if c.isLower then some ([], .word [c])
  else (punctuation? c).map fun t => ([t], .between)

/-- The character that a letter after a backslash stands for. -/
def escapeChar? (c : Char) : Option Char :=
  if c = '"' || c = '\\' || c = '/' then some c
  else if c = 'b' then some '\x08'
  else if c = 'f' then some '\x0c'
  else if c = 'n' then some '\n'
  else if c = 'r' then some '\r'
  else if c = 't' then some '\t'
  else none

/-- Whether a character can go on a numeral. -/
def isNumeralChar (c : Char) : Bool :=
  c.isDigit || c = '+' || c = '-' || c = '.' || c = 'e' || c = 'E'

/-- Takes one character: the tokens that it completes, and what comes to be. -/
def lexStep (c : Char) : LexState → Option (List Token × LexState)
  | .between => beginToken c
  | .word cs =>
    if c.isLower then some ([], .word (c :: cs))
    else do
      let t ← wordToken? cs.reverse
      let (ts, s) ← beginToken c
      return (t :: ts, s)
  | .numeral cs =>
    if isNumeralChar c then some ([], .numeral (c :: cs))
    else do
      let n ← Numeral.ofChars? cs.reverse
      let (ts, s) ← beginToken c
      return (.number n :: ts, s)
  | .text units =>
    if c = '"' then some ([.text units.reverse], .between)
    else if c = '\\' then some ([], .escape units)
    else if c.toNat < 0x20 then none
    else some ([], .text (.char c :: units))
  | .escape units =>
    if c = 'u' then some ([], .code units 0 0)
    else (escapeChar? c).map fun d => ([], .text (.char d :: units))
  | .code units count value =>
    (Text.hexDigit? c).map fun d =>
      if count = 3 then ([], .text (.code (16 * value + d) :: units))
      else ([], .code units (count + 1) (16 * value + d))

/-- The tokens of the characters that are left, from a state on. -/
def lexFrom : LexState → List Char → Option (List Token)
  | .between, [] => some []
  | .word cs, [] => (wordToken? cs.reverse).map ([·])
  | .numeral cs, [] => (Numeral.ofChars? cs.reverse).map fun n => [.number n]
  | _, [] => none
  | s, c :: cs =>
    match lexStep c s with
    | none => none
    | some (ts, s) => (lexFrom s cs).map (ts ++ ·)

/-- The tokens of a document. -/
def tokens (cs : List Char) : Option (List Token) := lexFrom .between cs

end Json

end Chainwalk
