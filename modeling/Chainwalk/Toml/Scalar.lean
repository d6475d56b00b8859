import Chainwalk.Number.Reading
import Chainwalk.Text.Hexadecimal
import Chainwalk.Text.Pieces
import Chainwalk.Toml.Basic

/-!
# Numbers, words and dates in TOML

A value without quotes or brackets is a run of characters, classified as a whole: a truth
value, a whole number of 64 bits, a fraction, or a date, a time or both. Underscores may
stand between digits.
-/

namespace Chainwalk

namespace Toml

/-- The digits of a number, without the underscores between them. -/
def digits? (isDigit : Char → Bool) (cs : List Char) : Option (List Char) :=
  let groups := Text.pieces '_' cs
  if groups.all fun g => !g.isEmpty && g.all isDigit then some groups.flatten else none

/-- Digits that do not begin with a zero, a lone zero apart. -/
def wholeDigits? (cs : List Char) : Option (List Char) :=
  (digits? Char.isDigit cs).filter fun ds => ds.length = 1 || ds.head? != some '0'

/-- The sign and the rest of a number. -/
def splitSign : List Char → List Char × List Char
  | '+' :: cs => ([], cs)
  | '-' :: cs => (['-'], cs)
  | cs => ([], cs)

/-- The number, if it fits into 64 bits. -/
def bounded? (n : Int) : Option Toml :=
  if Int64.minValue.toInt ≤ n && n ≤ Int64.maxValue.toInt then some (.integer n) else none

/-- A whole number in a base of two, eight or sixteen. -/
def radix? (base : Nat) (cs : List Char) : Option Toml := do
  let ds ← digits? (fun c => (Text.hexDigit? c).any (· < base)) cs
  bounded? (ds.foldl (fun n c => base * n + (Text.hexDigit? c).getD 0) 0)

/-- A whole number. -/
def integer? (cs : List Char) : Option Toml :=
  match cs with
  | '0' :: 'x' :: ds => radix? 16 ds
  | '0' :: 'o' :: ds => radix? 8 ds
  | '0' :: 'b' :: ds => radix? 2 ds
  | cs => do
    let (sign, cs) := splitSign cs
    let n := Int.ofNat (FloatLiteral.natOfDigits (← wholeDigits? cs))
    bounded? (if sign.isEmpty then n else -n)

/-- The exponent of a fraction, from its letter on. -/
def exponent? : List Char → Option (List Char)
  | [] => some []
  | c :: cs => do
    guard (c = 'e' || c = 'E')
    let (sign, cs) := splitSign cs
    return 'e' :: sign ++ (← digits? Char.isDigit cs)

/-- A fraction: places after a point, an exponent, or both. It must not be too large; the
    words for infinity and for no number are fractions as well. -/
def float? (cs : List Char) : Option Toml := do
  let (sign, cs) := splitSign cs
  if cs = ['i', 'n', 'f'] then return .float (if sign.isEmpty then 1 / 0 else -1 / 0)
  if cs = ['n', 'a', 'n'] then return .float (0 / 0)
  let inRun (c : Char) : Bool := c.isDigit || c = '_'
  let whole ← wholeDigits? (cs.takeWhile inRun)
  let rest := cs.dropWhile inRun
  guard !rest.isEmpty
  let (places, rest) ←
    match rest with
    | '.' :: r =>
      (digits? Char.isDigit (r.takeWhile inRun)).map fun ds => ('.' :: ds, r.dropWhile inRun)
    | r => some ([], r)
  let exponent ← exponent? rest
  match readDouble (String.ofList (sign ++ whole ++ places ++ exponent)) with
  | .ok x => if x == 1 / 0 then none else some (.float x)
  | .error _ => none

/-! ## Dates and times -/

/-- A number of exactly `count` digits, and what comes after it. -/
def fixed? (count : Nat) (cs : List Char) : Option (Nat × List Char) :=
  let ds := cs.take count
  if ds.length = count && ds.all Char.isDigit then
    some (FloatLiteral.natOfDigits ds, cs.drop count)
  else none

/-- The number of days of a month. -/
def daysIn (year month : Nat) : Nat :=
  if month = 2 then if year % 4 = 0 && (year % 100 != 0 || year % 400 = 0) then 29 else 28
  else if month = 4 || month = 6 || month = 9 || month = 11 then 30
  else 31

/-- What comes after a date. -/
def date? (cs : List Char) : Option (List Char) := do
  let (year, cs) ← fixed? 4 cs
  let cs ← match cs with | '-' :: cs => some cs | _ => none
  let (month, cs) ← fixed? 2 cs
  let cs ← match cs with | '-' :: cs => some cs | _ => none
  let (day, cs) ← fixed? 2 cs
  guard (1 ≤ month && month ≤ 12 && 1 ≤ day && day ≤ daysIn year month)
  return cs

/-- What comes after hours and minutes. -/
def hourMinute? (cs : List Char) : Option (List Char) := do
  let (hour, cs) ← fixed? 2 cs
  let cs ← match cs with | ':' :: cs => some cs | _ => none
  let (minute, cs) ← fixed? 2 cs
  guard (hour < 24 && minute < 60)
  return cs

/-- What comes after a time of day. A minute may have a leap second. -/
def time? (cs : List Char) : Option (List Char) := do
  let cs ← hourMinute? cs
  let cs ← match cs with | ':' :: cs => some cs | _ => none
  let (second, cs) ← fixed? 2 cs
  guard (second ≤ 60)
  match cs with
  | '.' :: ds => if ds.head?.any Char.isDigit then some (ds.dropWhile Char.isDigit) else none
  | cs => some cs

/-- Whether the characters are nothing or the distance of a time zone. -/
def isZone (cs : List Char) : Bool :=
  match cs with
  | [] => true
  | c :: cs =>
    if c = 'Z' || c = 'z' then cs.isEmpty
    else (c = '+' || c = '-') && hourMinute? cs == some []

/-- Whether the characters are a date, a time or both. -/
def isMoment (cs : List Char) : Bool :=
  match date? cs with
  | some [] => true
  | some (c :: cs) => (c = 'T' || c = 't' || c = ' ') && (time? cs).any isZone
  | none => time? cs == some []

/-! ## Runs -/

/-- Whether a character ends a run. -/
def endsRun (c : Char) : Bool :=
  c = ' ' || c = '\t' || c = '\n' || c = ',' || c = ']' || c = '\x7d' || c = '#'

/-- What a run stands for. -/
def ofRun? (cs : List Char) : Option Toml :=
  if cs = ['t', 'r', 'u', 'e'] then some (.boolean true)
  else if cs = ['f', 'a', 'l', 's', 'e'] then some (.boolean false)
  else if isMoment cs then some (.moment (String.ofList cs))
  else (float? cs).or (integer? cs)

/-- The value at the front that has neither quotes nor brackets, and what comes after it. A
    blank may stand between a date and its time. -/
def scalar? (cs : List Char) : Option (Toml × List Char) :=
  let run := cs.takeWhile (!endsRun ·)
  let rest := cs.dropWhile (!endsRun ·)
  match date? run, rest with
  | some [], ' ' :: after =>
    let whole := run ++ ' ' :: after.takeWhile (!endsRun ·)
    if after.head?.any Char.isDigit then
      if isMoment whole then
        some (.moment (String.ofList whole), after.dropWhile (!endsRun ·))
      else none
    else some (.moment (String.ofList run), rest)
  | _, _ => (ofRun? run).map (·, rest)

end Toml

end Chainwalk
