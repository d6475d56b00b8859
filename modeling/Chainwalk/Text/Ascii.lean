/-!
# Case of ASCII letters

Names of worlds, players, constants and commands are compared without regard to
the case of ASCII letters; every other character stands for itself.
-/

namespace Chainwalk

namespace Text

/-- The text with its ASCII capitals made small. -/
def lowerAscii (s : String) : String := String.ofList (s.toList.map Char.toLower)

/-- Whether two texts agree up to the case of ASCII letters. -/
def sameIgnoringCase (s t : String) : Bool := s.toList.map Char.toLower == t.toList.map Char.toLower

theorem sameIgnoringCase_iff {s t : String} :
    sameIgnoringCase s t ↔ lowerAscii s = lowerAscii t := by
  simp [sameIgnoringCase, lowerAscii, String.ofList_inj]

theorem sameIgnoringCase_refl (s : String) : sameIgnoringCase s s := by
  simp [sameIgnoringCase]

end Text

end Chainwalk
