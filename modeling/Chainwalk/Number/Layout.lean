import Chainwalk.Number.Shortest

/-!
# How numbers are written

A `Layout` settles how the shortest decimal of a floating number is written: from which
magnitude on an exponent is used, what follows a whole number, which way a tie goes, and
the words for what is not finite. Three layouts are in use.

* `Layout.plain`: displayed values, never an exponent;
* `Layout.detailed`: the text of a value inside the description of another;
* `Layout.json`: documents.

`fixed` writes a given number of places.
-/

namespace Chainwalk

/-- How a floating number is written. -/
structure Layout where
  /-- The decimal exponents of the leading digit that are written positionally. -/
  positional : Int → Bool
  /-- What follows the digits of a whole number. -/
  whole : String
  /-- What stands before an exponent that is not negative. -/
  plus : String
  /-- Which of two equally near decimals of the fewest digits is written. -/
  tie : Tie
  infinite : String
  undefined : String

namespace Layout

/-- Digits only, `inf` and `NaN`. -/
def plain : Layout := ⟨fun _ => true, "", "", .up, "inf", "NaN"⟩

/-- Whole numbers end in `.0`; an exponent from `10 ^ 16` on and below `10 ^ (-4)`. -/
def detailed : Layout := ⟨fun e => -4 ≤ e && e < 16, ".0", "", .up, "inf", "NaN"⟩

/-- Whole numbers end in `.0`; a signed exponent from `10 ^ 16` on and below
    `10 ^ (-5)`. What is not finite has no form but `null`. -/
def json : Layout := ⟨fun e => -5 ≤ e && e < 16, ".0", "+", .toEven, "null", "null"⟩

/-- The digits `ds` with the decimal point after the first `point` of them, as far as
    there are so many. -/
def positionally (l : Layout) (ds : List Char) (point : Int) : String :=
  if point ≤ 0 then
    "0." ++ String.ofList (List.replicate (-point).toNat '0' ++ ds)
  else
    let n := point.toNat
    if ds.length ≤ n then
      String.ofList (ds ++ List.replicate (n - ds.length) '0') ++ l.whole
    else String.ofList (ds.take n) ++ "." ++ String.ofList (ds.drop n)

/-- The digits `ds` with the point after the first, times ten to the power `e`. -/
def scientifically (l : Layout) (ds : List Char) (e : Int) : String :=
  let mantissa :=
    match ds with
    | d :: [] => String.ofList [d]
    | d :: rest => String.ofList (d :: '.' :: rest)
    | [] => ""
  mantissa ++ "e" ++ (if e < 0 then "-" else l.plus) ++ toString e.natAbs

/-- The decimal digits of a positive number without the zeros at the end, and the
    exponent of the first of them. -/
def digits (d : Decimal) : List Char × Int :=
  let all := Nat.toDigits 10 d.coefficient
  ((all.reverse.dropWhile (· == '0')).reverse, d.exponent + all.length - 1)

/-- A decimal as the layout has it. -/
def decimal (l : Layout) (d : Decimal) : String :=
  if d.coefficient = 0 then "0" ++ l.whole
  else
    let (ds, e) := digits d
    if l.positional e then l.positionally ds (e + 1) else l.scientifically ds e

/-- A magnitude with its sign as the layout has it. -/
def magnitude (l : Layout) (f : BinaryFormat) (negative : Bool) : Magnitude → String
  | .undefined => l.undefined
  | .infinite => if negative then "-" ++ l.infinite else l.infinite
  | .finite m q =>
    let body := if m = 0 then "0" ++ l.whole else l.decimal (.shortest f l.tie m q)
    if negative then "-" ++ body else body

/-- A number of 64 bits as the layout has it. -/
def double (l : Layout) (x : Float) : String :=
  let bits := x.toBits.toNat
  l.magnitude .double (BinaryFormat.double.isNegative bits) (.ofBits .double bits)

/-- A number of 32 bits as the layout has it. -/
def single (l : Layout) (x : Float32) : String :=
  let bits := x.toBits.toNat
  l.magnitude .single (BinaryFormat.single.isNegative bits) (.ofBits .single bits)

end Layout

/-- The number `m * 2 ^ q` with `places` digits after the point, a half going to the
    even neighbour. -/
def fixedPlaces (places : Nat) (m : Nat) (q : Int) : String :=
  let num := m * Nat.pow 10 places * Nat.pow 2 q.toNat
  let units := BinaryFormat.roundHalfEven num (Nat.pow 2 (-q).toNat)
  let ds := Nat.toDigits 10 units
  let padded := List.replicate (places + 1 - ds.length) '0' ++ ds
  let cut := padded.length - places
  String.ofList (padded.take cut) ++ "." ++ String.ofList (padded.drop cut)

/-- A number with a fixed count of places; the sign of a zero is kept. -/
def fixed (places : Nat) (x : Float) : String :=
  let bits := x.toBits.toNat
  let sign := if BinaryFormat.double.isNegative bits then "-" else ""
  match Magnitude.ofBits .double bits with
  | .undefined => "NaN"
  | .infinite => sign ++ "inf"
  | .finite m q => sign ++ fixedPlaces places m q

end Chainwalk
