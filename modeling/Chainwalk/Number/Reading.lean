import Chainwalk.Number.Binary
import Chainwalk.Number.Integer
import Chainwalk.Text.Ascii

/-!
# Reading floating numbers

A floating number is an optional sign and either one of the words `inf`, `infinity`
and `nan`, in any case of letters, or a decimal: digits with at most one point
among or around them and at least one digit, then an optional exponent. The nearest number of
the format is taken.
-/

namespace Chainwalk

/-- Why a text is no floating number. -/
inductive FloatFault
  | empty
  | malformed
  deriving DecidableEq, Repr

namespace FloatFault

/-- The words for a fault. -/
def message : FloatFault → String
  | empty => "cannot parse float from empty string"
  | malformed => "invalid float literal"

end FloatFault

/-- A floating number as it is written. -/
inductive FloatLiteral
  | infinite (negative : Bool)
  | undefined (negative : Bool)
  /-- The whole number `coefficient` times ten to the power `exponent`. -/
  | decimal (negative : Bool) (coefficient : Nat) (exponent : Int)
  deriving DecidableEq, Repr

namespace FloatLiteral

/-- The natural number with the given decimal digits. -/
def natOfDigits (ds : List Char) : Nat :=
  ds.foldl (fun n c => 10 * n + (c.toNat - '0'.toNat)) 0

/-- The exponent after the letter `e`: an optional sign and digits. -/
def exponent? (cs : List Char) : Option Int :=
  let (negative, ds) :=
    match cs with
    | '-' :: rest => (true, rest)
    | '+' :: rest => (false, rest)
    | rest => (false, rest)
  if ds.isEmpty || !ds.all Char.isDigit then none
  else some (if negative then -Int.ofNat (natOfDigits ds) else Int.ofNat (natOfDigits ds))

/-- A decimal without its sign. -/
def decimal? (negative : Bool) (cs : List Char) : Option FloatLiteral :=
  let whole := cs.takeWhile Char.isDigit
  let rest := cs.dropWhile Char.isDigit
  let (places, rest) :=
    match rest with
    | '.' :: r => (r.takeWhile Char.isDigit, r.dropWhile Char.isDigit)
    | r => ([], r)
  let exponent :=
    match rest with
    | [] => some 0
    | c :: r => if c = 'e' || c = 'E' then exponent? r else none
  if whole.isEmpty && places.isEmpty then none
  else exponent.map fun e => .decimal negative (natOfDigits (whole ++ places)) (e - places.length)

/-- A floating number without its sign. -/
def unsigned? (negative : Bool) (cs : List Char) : Option FloatLiteral :=
  let word := String.ofList (cs.map Char.toLower)
  if word = "inf" || word = "infinity" then some (.infinite negative)
  else if word = "nan" then some (.undefined negative)
  else decimal? negative cs

/-- What a text stands for. -/
def read (s : String) : Except FloatFault FloatLiteral :=
  match s.toList with
  | [] => .error .empty
  | '-' :: cs => ((unsigned? true cs).map Except.ok).getD (.error .malformed)
  | '+' :: cs => ((unsigned? false cs).map Except.ok).getD (.error .malformed)
  | cs => ((unsigned? false cs).map Except.ok).getD (.error .malformed)

/-- The decimal as a quotient, brought within reach: beyond `10 ^ 400` and below
    `10 ^ (-400)` only the direction matters to any format in use. -/
def quotient (coefficient : Nat) (exponent : Int) : Nat × Nat :=
  if coefficient = 0 then (0, 1)
  else
    let lead := exponent + (Nat.toDigits 10 coefficient).length
    if 400 < lead then (Nat.pow 10 400, 1)
    else if lead < -400 then (1, Nat.pow 10 400)
    else if exponent < 0 then (coefficient, Nat.pow 10 (-exponent).toNat)
    else (coefficient * Nat.pow 10 exponent.toNat, 1)

/-- The nearest number of 64 bits. -/
def toDouble : FloatLiteral → Float
  | infinite negative => if negative then -1 / 0 else 1 / 0
  | undefined _ => 0 / 0
  | decimal negative c e => let (num, den) := quotient c e; doubleNearest negative num den

/-- The nearest number of 32 bits. -/
def toSingle : FloatLiteral → Float32
  | infinite negative => if negative then -1 / 0 else 1 / 0
  | undefined _ => 0 / 0
  | decimal negative c e => let (num, den) := quotient c e; singleNearest negative num den

end FloatLiteral

/-- The number of 64 bits that a text stands for. -/
def readDouble (s : String) : Except FloatFault Float :=
  FloatLiteral.toDouble <$> FloatLiteral.read s

/-- The number of 32 bits that a text stands for. -/
def readSingle (s : String) : Except FloatFault Float32 :=
  FloatLiteral.toSingle <$> FloatLiteral.read s

end Chainwalk
