import Chainwalk.Number.Binary

/-!
# Shortest decimals

The decimal of fewest digits that reads back as a given binary number, and of those
the nearest to it. The reals that round to a number form an interval, its ends
included exactly when the significand is even. For one digit, two, and so on, the two
neighbours of the number on that decimal grid are tested exactly; the first grid with
a hit wins. Two neighbours can be equally near; a `Tie` says which is taken.
-/

namespace Chainwalk

/-- The decimal `coefficient * 10 ^ exponent`. -/
structure Decimal where
  coefficient : Nat
  exponent : Int
  deriving DecidableEq, Repr

/-- Which of two neighbours on a grid is taken if both are equally near. -/
inductive Tie
  | up
  | toEven
  deriving DecidableEq, Repr

namespace Tie

/-- The neighbour that is taken, of `d` and the one above it. -/
def choose : Tie → Nat → Nat
  | up, d => d + 1
  | toEven, d => if d % 2 = 0 then d else d + 1

end Tie

/-- Exact bounds around a positive number: the number and its interval over one
    denominator. -/
structure Bracket where
  low : Nat
  value : Nat
  high : Nat
  den : Nat
  /-- Whether the ends belong to the interval. -/
  closed : Bool

namespace Bracket

/-- The interval of the reals that round to `m * 2 ^ q` in the format. Below a power
    of two the numbers lie twice as close. -/
def around (f : BinaryFormat) (m : Nat) (q : Int) : Bracket :=
  let down := if m = f.hidden && q ≠ f.leastExponent then 1 else 2
  let scale := Nat.pow 2 (q - 2).toNat
  { low := (4 * m - down) * scale
    value := 4 * m * scale
    high := (4 * m + 2) * scale
    den := Nat.pow 2 (2 - q).toNat
    closed := m % 2 == 0 }

/-- Whether `num`, over the bracket's denominator, lies in the interval. -/
def holds (b : Bracket) (num : Nat) : Bool :=
  if b.closed then b.low ≤ num && num ≤ b.high else b.low < num && num < b.high

/-- The bracket in units of `10 ^ g`. -/
def scaled (b : Bracket) (g : Int) : Bracket :=
  if g < 0 then
    let k := Nat.pow 10 (-g).toNat
    { b with low := b.low * k, value := b.value * k, high := b.high * k }
  else { b with den := b.den * Nat.pow 10 g.toNat }

/-- The neighbour on the grid of the whole numbers that lies in the interval, the
    nearer one if both do. -/
def wholeNumber (b : Bracket) (tie : Tie) : Option Nat :=
  let d := b.value / b.den
  let below := b.holds (d * b.den)
  let above := b.holds ((d + 1) * b.den)
  if below && above then
    some (if 2 * (b.value % b.den) < b.den then d
      else if b.den < 2 * (b.value % b.den) then d + 1
      else tie.choose d)
  else if below then some d
  else if above then some (d + 1)
  else none

/-- The exponent of the leading digit of the value. -/
def leadingExponent (b : Bracket) : Int :=
  if b.den ≤ b.value then ((Nat.toDigits 10 (b.value / b.den)).length : Int) - 1
  else -((Nat.toDigits 10 ((b.den + b.value - 1) / b.value - 1)).length : Int)

/-- The first hit on the grids of `n`, `n + 1`, … digits, `fuel` of them. -/
def search (b : Bracket) (tie : Tie) (lead : Int) : Nat → Nat → Decimal
  | 0, n => ⟨b.value / b.den, lead - n⟩
  | fuel + 1, n =>
    let g := lead + 1 - n
    match (b.scaled g).wholeNumber tie with
    | some d => ⟨d, g⟩
    | none => search b tie lead fuel (n + 1)

end Bracket

namespace Decimal

/-- The shortest decimal that reads back as `m * 2 ^ q` in the format; 17 digits are
    enough for every format in use. -/
def shortest (f : BinaryFormat) (tie : Tie) (m : Nat) (q : Int) : Decimal :=
  let b := Bracket.around f m q
  b.search tie b.leadingExponent 18 1

end Decimal

end Chainwalk
