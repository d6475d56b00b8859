/-!
# Reading whole numbers

A whole number is an optional sign and decimal digits, nothing else. It is read
against the bounds of its width: the first character that is no digit is reported
unless the digits before it are already out of bounds (`IntegerWidth.read`).
-/

namespace Chainwalk

/-- Why a text is no whole number of some width. -/
inductive IntegerFault
  | empty
  | badDigit
  | tooLarge
  | tooSmall
  deriving DecidableEq, Repr

namespace IntegerFault

/-- The words for a fault. -/
def message : IntegerFault → String
  | empty => "cannot parse integer from empty string"
  | badDigit => "invalid digit found in string"
  | tooLarge => "number too large to fit in target type"
  | tooSmall => "number too small to fit in target type"

end IntegerFault

/-- The bounds of a width. A width without negative numbers reads no minus sign. -/
structure IntegerWidth where
  least : Int
  greatest : Int
  deriving DecidableEq, Repr

namespace IntegerWidth

/-- Whole numbers of `bits` bits with a sign. -/
def signed (bits : Nat) : IntegerWidth :=
  let half : Int := Nat.pow 2 (bits - 1)
  ⟨-half, half - 1⟩

/-- Whole numbers of `bits` bits without a sign. -/
def unsigned (bits : Nat) : IntegerWidth := ⟨0, (Nat.pow 2 bits : Int) - 1⟩

/-- The value of a decimal digit. -/
def digit? (c : Char) : Option Nat := if c.isDigit then some (c.toNat - '0'.toNat) else none

/-- Digits read on from the absolute value `n`, which may not pass `bound`. -/
def digits (bound : Nat) (beyond : IntegerFault) (n : Nat) : List Char → Except IntegerFault Nat
  | [] => .ok n
  | c :: cs =>
    match digit? c with
    | none => .error .badDigit
    | some d => if bound < 10 * n + d then .error beyond else digits bound beyond (10 * n + d) cs

variable (w : IntegerWidth)

/-- The number that the characters stand for. -/
def readChars : List Char → Except IntegerFault Int
  | [] => .error .empty
  | ['+'] => .error .badDigit
  | ['-'] => .error .badDigit
  | '+' :: cs => Int.ofNat <$> digits w.greatest.toNat .tooLarge 0 cs
  | '-' :: cs =>
    if w.least < 0 then (fun n => -Int.ofNat n) <$> digits (-w.least).toNat .tooSmall 0 cs
    else .error .badDigit
  | cs => Int.ofNat <$> digits w.greatest.toNat .tooLarge 0 cs

/-- The number that a text stands for. -/
def read (s : String) : Except IntegerFault Int := w.readChars s.toList

end IntegerWidth

end Chainwalk
