import Chainwalk.Conversion.Handler
import Chainwalk.Number.Reading
import Chainwalk.Text.Blank
import Chainwalk.Text.Pieces

/-!
# Literals of plain values

How one word of a command is read as a value of a scalar class, and how a list of
words is cut into its elements.
-/

namespace Chainwalk

/-- The words for true and false. -/
def readBoolean (s : String) : Except String Bool :=
  let word := Text.lowerAscii (Text.trim s)
  if word = "true" || word = "yes" || word = "on" then .ok true
  else if word = "false" || word = "no" || word = "off" then .ok false
  else .error "expected true or false"

/-- A whole number of some width, blanks around it apart. -/
def readInteger (w : IntegerWidth) (s : String) : Except String Int :=
  (w.read (Text.trim s)).mapError IntegerFault.message

/-- A text of one character. -/
def readChar (s : String) : Except String Char :=
  match s.toList with
  | [c] => .ok c
  | _ => .error "expected exactly one character"

namespace ScalarKind

/-- What a literal stands for in a scalar class, or why it stands for nothing. -/
def read : (k : ScalarKind) → String → Except String k.Carrier
  | boolean, s => readBoolean s
  | byte, s => Int8.ofInt <$> readInteger (.signed 8) s
  | short, s => Int16.ofInt <$> readInteger (.signed 16) s
  | int, s => Int32.ofInt <$> readInteger (.signed 32) s
  | long, s => Int64.ofInt <$> readInteger (.signed 64) s
  | float, s => (readSingle (Text.trim s)).mapError FloatFault.message
  | double, s => (readDouble (Text.trim s)).mapError FloatFault.message
  | char, s => readChar s
  | string, s => .ok s

/-- Reads a literal of a scalar class, or faults in the name of the class `c`. -/
def readAs (h : Hierarchy) (c : Class) (k : ScalarKind) (s : String) : Except Fault k.Carrier :=
  (k.read s).mapError (unreadable h s c)

end ScalarKind

namespace Text

/-- The elements of a list of words: commas separate them, brackets may stand around
    them, blanks do not count, and nothing is no element. -/
def elements (cs : List Char) : List (List Char) :=
  ((pieces ',' (unbracketed (trimmed cs))).map trimmed).filter (!·.isEmpty)

/-- The elements of a list of words, as texts. -/
def elementTexts (s : String) : List String := (elements s.toList).map String.ofList

end Text

end Chainwalk
