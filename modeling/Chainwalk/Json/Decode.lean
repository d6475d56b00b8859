import Chainwalk.Json.Basic
import Chainwalk.Number.Reading

/-!
# Reading data from documents

How the values of a document are taken as data of a type. A record may be given by its
fields or as an array of their values in order. Of the fields of an object those that
the record does not have are passed over, and none that it has may come twice.

A whole number is taken as an integer only when it is written as one and fits into 64
bits. For fractions the first digits that fit into 64 bits count, and the power of ten
is applied in floating arithmetic.
-/

namespace Chainwalk

namespace Json

namespace Numeral

/-- The most that 64 bits hold. -/
def greatest : Nat := UInt64.size - 1

/-- The significand with the digits that fit into 64 bits, the number of digits taken,
    and the digits left. -/
def accumulate : Nat → Nat → List Char → Nat × Nat × List Char
  | n, taken, [] => (n, taken, [])
  | n, taken, c :: cs =>
    let n' := 10 * n + (c.toNat - '0'.toNat)
    if greatest < n' then (n, taken, c :: cs) else accumulate n' (taken + 1) cs

/-- The powers of ten that the arithmetic uses. -/
def powerOfTen (k : Nat) : Float := doubleNearest false (Nat.pow 10 k) 1

/-- The significand times a power of ten; nothing beyond the greatest finite number. -/
def scale (f : Float) (exponent : Int) : Nat → Option Float
  | 0 => none
  | fuel + 1 =>
    if exponent.natAbs ≤ 308 then
      if 0 ≤ exponent then
        let g := f * powerOfTen exponent.natAbs
        if g.isInf then none else some g
      else some (f / powerOfTen exponent.natAbs)
    else if f == 0 then some f
    else if 0 ≤ exponent then none
    else scale (f / powerOfTen 308) (exponent + 308) fuel

/-- The greatest exponent that can be written out. -/
def exponentLimit : Int := Int32.maxValue.toInt

variable (n : Numeral)

/-- The absolute value of a numeral as a fraction. -/
def magnitude? : Option Float :=
  let (significand, _, left) := accumulate 0 0 n.whole
  let (significand, taken, _) := accumulate significand 0 (n.places.getD [])
  let start : Int := left.length - taken
  match n.exponent with
  | none => scale (UInt64.ofNat significand).toFloat start (start.natAbs + 1)
  | some (negative, ds) =>
    let e : Int := FloatLiteral.natOfDigits ds
    if exponentLimit < e then if significand ≠ 0 && !negative then none else some 0
    else
      let exponent :=
        max (-exponentLimit - 1) (min exponentLimit (if negative then start - e else start + e))
      -- A number that has come down to zero stays there, so a few steps are enough.
      scale (UInt64.ofNat significand).toFloat exponent 8

/-- The numeral as a whole number: written without point and exponent, and within 64
    bits. A negative zero is no whole number. -/
def integer? : Option Int :=
  if n.places.isSome || n.exponent.isSome then none
  else
    let v := FloatLiteral.natOfDigits n.whole
    if !n.negative then if v ≤ greatest then some v else none
    else if 0 < v && Int64.minValue.toInt ≤ -(v : Int) then some (-(v : Int))
    else none

/-- The numeral as a fraction. -/
def double? : Option Float :=
  match n.integer? with
  | some v => if v < 0 then some (Int64.ofInt v).toFloat else some (UInt64.ofNat v.toNat).toFloat
  | none => n.magnitude?.map fun f => if n.negative then -f else f

end Numeral

/-! ## Data -/

/-- A text. -/
def string? : Json → Option String
  | text s => s
  | _ => none

/-- A truth value. -/
def bool? : Json → Option Bool
  | bool b => some b
  | _ => none

/-- A whole number within bounds. -/
def integer? (w : IntegerWidth) : Json → Option Int
  | number n => n.integer?.filter fun v => w.least ≤ v && v ≤ w.greatest
  | _ => none

/-- A fraction. -/
def double? : Json → Option Float
  | number n => n.double?
  | _ => none

/-- Null, or what `read` takes the value as. -/
def optional? {α : Type} (read : Json → Option α) : Json → Option (Option α)
  | null => some none
  | v => (read v).map some

/-- An array of any length. -/
def list? {α : Type} (read : Json → Option α) : Json → Option (List α)
  | array items => items.mapM read
  | _ => none

/-- An array of three. -/
def triple? {α : Type} (read : Json → Option α) : Json → Option (α × α × α)
  | array [x, y, z] => do return (← read x, ← read y, ← read z)
  | _ => none

/-- A constant by its name, or as the only key of an object, with null as its value. -/
def constant? {α : Type} (ofName? : String → Option α) : Json → Option α
  | text s => s.bind ofName?
  | object [(key, null)] => key.bind ofName?
  | _ => none

/-- The values of the fields of a record, in the order of the names. -/
def record? (names : List String) : Json → Option (List (Option Json))
  | object fields => do
    let keyed ← fields.mapM fun (key, v) => key.map (·, v)
    if names.all fun name => keyed.countP (·.1 = name) ≤ 1 then
      some (names.map fun name => keyed.lookup name)
    else none
  | array items =>
    if items.length ≤ names.length then
      some (items.map some ++ List.replicate (names.length - items.length) none)
    else none
  | _ => none

/-- A field that must be there. -/
def required? {α : Type} (read : Json → Option α) (v : Option Json) : Option α := v.bind read

/-- A field that may be left out. -/
def orDefault? {α : Type} (read : Json → Option α) (default : α) (v : Option Json) : Option α :=
  match v with
  | none => some default
  | some v => read v

end Json

end Chainwalk
