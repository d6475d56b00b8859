/-!
# TOML documents

A document is a table of values, given line by line. Tables come about in three ways,
and how one came about decides what later lines may add to it (`TableOrigin`):

* `Toml.put?`: a key, maybe dotted, with its value;
* `Toml.openTable?`, `Toml.openElement?`: the header of a table, or of one more table of
  an array.
-/

namespace Chainwalk

/-- How a table of a document came about. -/
inductive TableOrigin
  /-- By a header of its own. -/
  | header
  /-- By the header of a table inside it. -/
  | implied
  /-- By a dotted key. -/
  | dotted
  deriving DecidableEq, Repr

/-- A value of a document. -/
inductive Toml
  | text (s : String)
  | integer (n : Int)
  | float (x : Float)
  | boolean (b : Bool)
  /-- A date, a time or both, as it is written. -/
  | moment (s : String)
  | array (elements : List Toml)
  /-- A table written as a value, which nothing can be added to. -/
  | inline (entries : List (String × Toml))
  | table (origin : TableOrigin) (entries : List (String × Toml))
  /-- Tables under one repeated header; it is the last that goes on. -/
  | tables (elements : List (List (String × Toml)))

namespace Toml

/-- The keys of a table with their values, in the order of the document. -/
abbrev Entries := List (String × Toml)

/-- The entries with the value of a key changed. -/
def Entries.replace (es : Entries) (key : String) (v : Toml) : Entries :=
  es.map fun e => if e.1 = key then (key, v) else e

/-- Changes the table at the end of a path. Tables missing on the way come about as `origin`
    says. A dotted key does not enter a table that has a header. -/
def within? (origin : TableOrigin) (change : TableOrigin → Entries → Option Entries) :
    TableOrigin → List String → Entries → Option Entries
  | here, [], es => change here es
  | _, k :: ks, es =>
    match es.lookup k with
    | none => (within? origin change origin ks []).map fun inner => es ++ [(k, .table origin inner)]
    | some (.table o inner) =>
      if origin = .dotted && o = .header then none
      else (within? origin change o ks inner).map fun inner => es.replace k (.table o inner)
    | some (.tables ts) =>
      match ts.getLast? with
      | none => none
      | some inner =>
        (within? origin change .header ks inner).map fun inner =>
          es.replace k (.tables (ts.dropLast ++ [inner]))
    | some _ => none

/-- Adds a key with its value to the table at the end of a path. No key comes twice, and a
    dotted key adds only to tables of dotted keys. -/
def put? (path : List String) (key : String) (v : Toml) (here : TableOrigin) (es : Entries) :
    Option Entries :=
  within? .dotted
    (fun o es =>
      if (o != .dotted && !path.isEmpty) || (es.lookup key).isSome then none
      else some (es ++ [(key, v)]))
    here path es

/-- Opens the table of a header: a new one, or one that other headers implied. -/
def openTable? (path : List String) (key : String) (es : Entries) : Option Entries :=
  within? .implied
    (fun _ es =>
      match es.lookup key with
      | none => some (es ++ [(key, .table .header [])])
      | some (.table .implied inner) => some (es.replace key (.table .header inner))
      | some _ => none)
    .header path es

/-- Opens one more table of an array of tables. -/
def openElement? (path : List String) (key : String) (es : Entries) : Option Entries :=
  within? .implied
    (fun _ es =>
      match es.lookup key with
      | none => some (es ++ [(key, .tables [[]])])
      | some (.tables ts) => some (es.replace key (.tables (ts ++ [[]])))
      | some _ => none)
    .header path es

end Toml

end Chainwalk
