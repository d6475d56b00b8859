/-!
# Blanks

A *blank* is a character with the Unicode property White_Space. Command lines
are cut at blanks and literals are read without the blanks around them
(`Text.trim`).

The functions work on lists of characters; `Text.trim` is the form for strings.
-/

namespace Chainwalk

namespace Text

/-- The characters with the property White_Space. -/
def isBlank (c : Char) : Bool :=
  (0x09 ≤ c.toNat && c.toNat ≤ 0x0D) || c.toNat == 0x20 || c.toNat == 0x85 ||
    c.toNat == 0xA0 || c.toNat == 0x1680 || (0x2000 ≤ c.toNat && c.toNat ≤ 0x200A) ||
    c.toNat == 0x2028 || c.toNat == 0x2029 || c.toNat == 0x202F || c.toNat == 0x205F ||
    c.toNat == 0x3000

/-- The characters without the blanks at the front. -/
def trimLeft (cs : List Char) : List Char := cs.dropWhile isBlank

/-- The characters without the blanks at either end. -/
def trimmed (cs : List Char) : List Char := (trimLeft (trimLeft cs).reverse).reverse

/-- The text without the blanks at either end. -/
def trim (s : String) : String := String.ofList (trimmed s.toList)

@[simp] theorem trimmed_nil : trimmed [] = [] := rfl

theorem toList_trim (s : String) : (trim s).toList = trimmed s.toList := by
  simp [trim]

end Text

end Chainwalk
