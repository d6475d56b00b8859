import Chainwalk.Json.Token

/-!
# Documents

A document is a tree of values. `Json.parse?` builds it from tokens with a stack of the
containers that are still open, so no document is too deep for it.

Fields keep their order and may come twice; keys and texts are `none` where their escapes
make up no characters.
-/

namespace Chainwalk

/-- A value of a document. -/
inductive Json
  | null
  | bool (b : Bool)
  | number (n : Json.Numeral)
  | text (s : Option String)
  | array (items : List Json)
  | object (fields : List (Option String × Json))

namespace Json

/-- A container that is still open, with what it holds so far in reverse. -/
inductive Frame
  | array (items : List Json)
  /-- An object in which the value of `key` is due. -/
  | object (fields : List (Option String × Json)) (key : Option String)

/-- What may come next. -/
inductive Expected
  | value
  /-- A value, or the end of the array just opened. -/
  | firstItem
  /-- A separator or the end of the container. -/
  | more
  /-- A key, or the end of the object just opened. -/
  | firstKey (fields : List (Option String × Json))
  | key (fields : List (Option String × Json))
  | colon (fields : List (Option String × Json)) (key : Option String)

/-- How far the reading of a document is. -/
inductive ReadState
  | reading (stack : List Frame) (expected : Expected)
  | done (v : Json)

/-- The characters of a text, if its escapes make up characters. -/
def textOf (units : List TextUnit) : Option String := (decodeUnits units).map String.ofList

/-- Puts a finished value where it belongs. -/
def deliver (v : Json) : List Frame → ReadState
  | [] => .done v
  | .array items :: stack => .reading (.array (v :: items) :: stack) .more
  | .object fields key :: stack => .reading (.object ((key, v) :: fields) key :: stack) .more

/-- Takes a token where a value may begin. -/
def beginValue (t : Token) (stack : List Frame) : Option ReadState :=
  match t with
  | .openBrace => some (.reading stack (.firstKey []))
  | .openBracket => some (.reading (.array [] :: stack) .firstItem)
  | .null => some (deliver .null stack)
  | .bool b => some (deliver (.bool b) stack)
  | .number n => some (deliver (.number n) stack)
  | .text units => some (deliver (.text (textOf units)) stack)
  | _ => none

/-- Takes a token. -/
def readStep (t : Token) : ReadState → Option ReadState
  | .done _ => none
  | .reading stack .value => beginValue t stack
  | .reading stack .firstItem =>
    match t, stack with
    | .closeBracket, .array items :: stack => some (deliver (.array items.reverse) stack)
    | t, stack => beginValue t stack
  | .reading stack .more =>
    match t, stack with
    | .comma, .array items :: stack => some (.reading (.array items :: stack) .value)
    | .closeBracket, .array items :: stack => some (deliver (.array items.reverse) stack)
    | .comma, .object fields _ :: stack => some (.reading stack (.key fields))
    | .closeBrace, .object fields _ :: stack => some (deliver (.object fields.reverse) stack)
    | _, _ => none
  | .reading stack (.firstKey fields) =>
    match t with
    | .closeBrace => some (deliver (.object fields.reverse) stack)
    | .text units => some (.reading stack (.colon fields (textOf units)))
    | _ => none
  | .reading stack (.key fields) =>
    match t with
    | .text units => some (.reading stack (.colon fields (textOf units)))
    | _ => none
  | .reading stack (.colon fields key) =>
    match t with
    | .colon => some (.reading (.object fields key :: stack) .value)
    | _ => none

/-- The value that the tokens make up. -/
def ofTokens? (ts : List Token) : Option Json :=
  match ts.foldlM (fun s t => readStep t s) (.reading [] .value) with
  | some (.done v) => some v
  | _ => none

/-- The value that a text is the document of. -/
def parse? (s : String) : Option Json := (tokens s.toList).bind ofTokens?

end Json

end Chainwalk
