/-!
# Binary floating formats

A finite binary number is `significand * 2 ^ exponent`. A `BinaryFormat` says how
many bits the significand has and which exponents there are; `double` and `single`
are the two formats in use.

* `Magnitude.ofBits`: what the bits of a number stand for, sign apart;
* `BinaryFormat.nearest`: the bits of the number nearest to a quotient of natural
  numbers, ties to the even significand.
-/

namespace Chainwalk

/-- A binary floating format, by the bits of its fields. -/
structure BinaryFormat where
  /-- Stored bits of the significand. -/
  fractionBits : Nat
  /-- Bits of the exponent field. -/
  exponentBits : Nat

namespace BinaryFormat

/-- The format of 64 bits. -/
def double : BinaryFormat := ⟨52, 11⟩

/-- The format of 32 bits. -/
def single : BinaryFormat := ⟨23, 8⟩

variable (f : BinaryFormat)

/-- The significand from which on a number is normal. -/
def hidden : Nat := Nat.pow 2 f.fractionBits

/-- The exponent field of infinities and of what is not a number. -/
def topField : Nat := Nat.pow 2 f.exponentBits - 1

/-- The exponent of the last bit of the least numbers. -/
def leastExponent : Int := 2 - (Nat.pow 2 (f.exponentBits - 1) : Int) - f.fractionBits

/-- The place of the sign. -/
def signPlace : Nat := f.fractionBits + f.exponentBits

end BinaryFormat

/-- What a floating number stands for, sign apart. -/
inductive Magnitude
  | finite (significand : Nat) (exponent : Int)
  | infinite
  | undefined
  deriving DecidableEq, Repr

namespace Magnitude

/-- The magnitude that the bits of a number stand for. -/
def ofBits (f : BinaryFormat) (bits : Nat) : Magnitude :=
  let fraction := bits % f.hidden
  let field := bits / f.hidden % (f.topField + 1)
  if field = f.topField then if fraction = 0 then .infinite else .undefined
  else if field = 0 then .finite fraction f.leastExponent
  else .finite (fraction + f.hidden) (f.leastExponent + (field - 1))

end Magnitude

namespace BinaryFormat

variable (f : BinaryFormat)

/-- Whether the sign of the bits is set. -/
def isNegative (bits : Nat) : Bool := bits / Nat.pow 2 f.signPlace % 2 == 1

/-- The quotient rounded to a natural number, a half to the even neighbour. -/
def roundHalfEven (num den : Nat) : Nat :=
  let q := num / den
  let r := num % den
  if 2 * r < den then q
  else if den < 2 * r then q + 1
  else if q % 2 = 0 then q else q + 1

/-- The quotient `num / den` over `2 ^ e`, rounded half to even. -/
def roundAt (num den : Nat) (e : Int) : Nat :=
  if e < 0 then roundHalfEven (num * Nat.pow 2 (-e).toNat) den
  else roundHalfEven num (den * Nat.pow 2 e.toNat)

/-- The exponent of the last bit that the significand of `num / den` should have:
    the quotient over it lies below `2 * hidden`, and not below `hidden` unless it is
    the least exponent. -/
def exponentFor (num den : Nat) : Int :=
  let guess : Int := (Nat.log2 num : Int) - Nat.log2 den - f.fractionBits - 1
  let below (e : Int) : Bool :=
    if e < 0 then num * Nat.pow 2 (-e).toNat < den * (2 * f.hidden)
    else num < den * Nat.pow 2 e.toNat * (2 * f.hidden)
  let e := if below guess then guess else if below (guess + 1) then guess + 1 else guess + 2
  max e f.leastExponent

/-- The bits of the number nearest to `num / den`, ties to the even significand,
    without a sign. Beyond the largest finite number it is infinity. -/
def nearest (num den : Nat) : Nat :=
  if num = 0 then 0
  else
    let e := f.exponentFor num den
    let m := roundAt num den e
    let field := (e - f.leastExponent).toNat
    -- A carry out of the significand lands in the exponent field as it should.
    let bits := if m < f.hidden then m else field * f.hidden + m
    min bits (f.topField * f.hidden)

end BinaryFormat

/-- The number of 64 bits nearest to `num / den`, with the given sign. -/
def doubleNearest (negative : Bool) (num den : Nat) : Float :=
  let bits := BinaryFormat.double.nearest num den
  Float.ofBits (UInt64.ofNat (if negative then bits + Nat.pow 2 63 else bits))

/-- The number of 32 bits nearest to `num / den`, with the given sign. -/
def singleNearest (negative : Bool) (num den : Nat) : Float32 :=
  let bits := BinaryFormat.single.nearest num den
  Float32.ofBits (UInt32.ofNat (if negative then bits + Nat.pow 2 31 else bits))

end Chainwalk
