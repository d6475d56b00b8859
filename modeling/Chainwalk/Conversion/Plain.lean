import Chainwalk.Conversion.Literal
import Chainwalk.Conversion.Registry

/-!
# Handlers of plain values

The handlers that every registry needs: scalars and arrays, enumerations and
collections. Scalars and arrays are read by handlers of their own; one polymorphic
handler serves all enumerations and one all collections.
-/

namespace Chainwalk

/-- Reads a scalar class. -/
def scalarInput (k : ScalarKind) : InputHandler where
  id := .shipped (.scalar k)
  relevant := .scalar k
  polymorphic := false
  convert h _ _ literal _ := do
    let v ← Act.ofExcept (k.readAs h (.scalar k) literal)
    Act.new (.scalar k v)

/-- Reads an array class. -/
def arrayInput (k : ScalarKind) : InputHandler where
  id := .shipped (.array k)
  relevant := .array k
  polymorphic := false
  convert h _ _ literal _ := do
    let vs ← Act.ofExcept ((Text.elementTexts literal).mapM (k.readAs h (.scalar k)))
    Act.new (.array k vs)

/-- Writes an array class. -/
def arrayOutput (k : ScalarKind) : OutputHandler where
  id := .shipped (.array k)
  relevant := .array k
  render h realm o _ :=
    match o.view? h (.array k) with
    | some (.whole (.value _ (.array j vs))) =>
      if j = k then Text.bracketed (vs.map j.text) else o.text h realm
    | _ => o.text h realm

/-- The constant of a class by its name, blanks around it and the case of its ASCII
    letters apart. -/
def Hierarchy.constant? (h : Hierarchy) (c : Class) (name : String) : Option Constant :=
  (h.constants c).find? fun k => Text.sameIgnoringCase k.name (Text.trim name)

/-- Reads every enumeration class. -/
def enumerationInput : InputHandler where
  id := .shipped .enumeration
  relevant := .enumeration
  polymorphic := true
  convert h _ _ literal target := do
    let names := ", ".intercalate ((h.constants target).map Constant.name)
    let k ← Act.orElse (h.constant? target literal)
      (unreadable h literal target ("expected one of " ++ names))
    Act.new (.constant k)

/-- Writes constants by their names. -/
def enumerationOutput : OutputHandler where
  id := .shipped .enumeration
  relevant := .enumeration
  render h realm o _ := (o.constant?.map Constant.name).getD (o.text h realm)

/-- Reads every class of collections that lists belong to. Each element goes back through the
    registry as a string. -/
def collectionInput : InputHandler where
  id := .shipped .collection
  relevant := .collection
  polymorphic := true
  convert h _ nested literal target := do
    if !h.isA .arrayList target then
      throw (unreadable h literal target "only list collections can be built")
    let elements ← (Text.elementTexts literal).mapM (nested .string)
    Act.newList elements

/-- Writes collections, each element through the registry. -/
def collectionOutput : OutputHandler where
  id := .shipped .collection
  relevant := .collection
  render h realm o nested :=
    match o with
    | .list _ elements =>
      Text.bracketed (elements.attach.map fun
        | ⟨none, _⟩ => "null"
        | ⟨some p, hp⟩ => nested p (Object.weight_lt_of_mem hp))
    | o => o.text h realm

/-- The handlers of plain values in order. -/
def plainHandlers : List Handler :=
  ScalarKind.all.map (fun k => .input (scalarInput k)) ++
    ScalarKind.all.map (fun k => .input (arrayInput k)) ++
    ScalarKind.all.map (fun k => .output (arrayOutput k)) ++
    [.input enumerationInput, .output enumerationOutput, .input collectionInput,
      .output collectionOutput]

namespace Registry

/-- The registry with the handlers of plain values, as far as it accepts them. -/
def withPlain (r : Registry) : Registry := (r.registerAll plainHandlers).2

/-- The registry of the handlers of plain values. -/
def plain : Registry := empty.withPlain

end Registry

end Chainwalk
