/-!
# Hexadecimal digits

Codes of characters are written in base sixteen, with digits beyond nine as letters.
Letters of either case are read, small ones are written.
-/

namespace Chainwalk

namespace Text

/-- The value of a hexadecimal digit. -/
def hexDigit? (c : Char) : Option Nat :=
  if c.isDigit then some (c.toNat - '0'.toNat)
  else if 'a' ≤ c && c ≤ 'f' then some (c.toNat - 'a'.toNat + 10)
  else if 'A' ≤ c && c ≤ 'F' then some (c.toNat - 'A'.toNat + 10)
  else none

/-- The code point of a character in small hexadecimal digits. -/
def hexCode (c : Char) : List Char := Nat.toDigits 16 c.toNat

end Text

end Chainwalk
