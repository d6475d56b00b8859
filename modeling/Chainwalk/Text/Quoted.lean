import Chainwalk.Text.Hexadecimal
import Chainwalk.Text.Unprintable

/-!
# Quoted text

A text between double quotes, or a character between single ones, with everything
that could be misread escaped. A quote is escaped only inside quotes of its own
kind.
-/

namespace Chainwalk

namespace Text

/-- One character as it stands between the given quotes. -/
def escaped (quote : Char) (c : Char) : List Char :=
  if c = '\x00' then ['\\', '0']
  else if c = '\t' then ['\\', 't']
  else if c = '\n' then ['\\', 'n']
  else if c = '\r' then ['\\', 'r']
  else if c = '\\' then ['\\', '\\']
  else if c = quote then ['\\', quote]
  else if isUnprintable c then ['\\', 'u', '\x7b'] ++ hexCode c ++ ['\x7d']
  else [c]

/-- A text between double quotes. -/
def quoted (s : String) : String :=
  String.ofList ('"' :: s.toList.flatMap (escaped '"') ++ ['"'])

/-- A character between single quotes. -/
def quotedChar (c : Char) : String :=
  String.ofList ('\'' :: escaped '\'' c ++ ['\''])

example : quoted "a\"b\\ c'\n" = "\"a\\\"b\\\\ c'\\n\"" := by decide +kernel

end Text

end Chainwalk
