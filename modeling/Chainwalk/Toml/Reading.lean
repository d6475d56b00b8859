import Chainwalk.Toml.Quoted
import Chainwalk.Toml.Scalar

/-!
# Reading TOML

A document is read line by line; a value may go on over lines. Values and keys are nested
to a limited depth. `Toml.parse?` gives the entries of the whole document, or nothing when
any line is amiss.
-/

namespace Chainwalk

namespace Toml

/-- The depth beyond which neither values nor keys are nested. -/
def maxDepth : Nat := 79

/-- Leaves out blanks. -/
def skipBlanks (cs : List Char) : List Char := cs.dropWhile fun c => c = ' ' || c = '\t'

/-- Leaves out blanks, line breaks and comments. -/
def skipLines (comment : Bool) : List Char → Option (List Char)
  | [] => some []
  | c :: cs =>
    if c = '\n' then skipLines false cs
    else if comment then if isLineChar c then skipLines true cs else none
    else if c = ' ' || c = '\t' then skipLines false cs
    else if c = '#' then skipLines true cs
    else some (c :: cs)

/-- Leaves out the rest of a line, which must be blank but for a comment. -/
def endLine (comment : Bool) : List Char → Option (List Char)
  | [] => some []
  | c :: cs =>
    if c = '\n' then some cs
    else if comment then if isLineChar c then endLine true cs else none
    else if c = ' ' || c = '\t' then endLine false cs
    else if c = '#' then endLine true cs
    else none

/-! ## Keys -/

/-- Whether a character may stand in a key without quotes. -/
def isKeyChar (c : Char) : Bool := c.isAlphanum || c = '-' || c = '_'

/-- One key, and what comes after it. -/
def simpleKey? : List Char → Option (String × List Char)
  | '"' :: cs => (QuoteForm.basic.scan (.body []) cs).map fun (k, cs) => (String.ofList k, cs)
  | '\'' :: cs => (QuoteForm.literal.scan (.body []) cs).map fun (k, cs) => (String.ofList k, cs)
  | cs =>
    let k := cs.takeWhile isKeyChar
    if k.isEmpty then none else some (String.ofList k, cs.dropWhile isKeyChar)

/-- Keys with points between them, at most `limit`, and what comes after them: the path to
    a table and the key in it. -/
def dottedKey? : Nat → List Char → Option ((List String × String) × List Char)
  | 0, _ => none
  | limit + 1, cs => do
    let (k, cs) ← simpleKey? (skipBlanks cs)
    match skipBlanks cs with
    | '.' :: cs =>
      let ((path, key), cs) ← dottedKey? limit cs
      return ((k :: path, key), cs)
    | cs => return (([], k), cs)

/-! ## Values -/

mutual

/-- The value at the front, with at most `depth` brackets inside one another. Each call takes
    one of `fuel`; twice the length of the characters is enough. -/
def value? (fuel depth : Nat) (cs : List Char) : Option (Toml × List Char) :=
  match fuel with
  | 0 => none
  | fuel + 1 =>
    match cs with
    | '[' :: cs =>
      if depth = 0 then none
      else (elements? fuel (depth - 1) cs).map fun (vs, cs) => (.array vs, cs)
    | '\x7b' :: cs =>
      if depth = 0 then none
      else
        match skipBlanks cs with
        | '\x7d' :: cs => some (.inline [], cs)
        | cs => (pairs? fuel (depth - 1) [] cs).map fun (es, cs) => (.inline es, cs)
    | cs =>
      match cs.head? with
      | some '"' => (quotedText? cs).map fun (s, cs) => (.text (String.ofList s), cs)
      | some '\'' => (quotedText? cs).map fun (s, cs) => (.text (String.ofList s), cs)
      | _ => scalar? cs

/-- The elements of an array up to its end. -/
def elements? (fuel depth : Nat) (cs : List Char) : Option (List Toml × List Char) :=
  match fuel with
  | 0 => none
  | fuel + 1 => do
    match ← skipLines false cs with
    | ']' :: cs => return ([], cs)
    | cs =>
      let (v, cs) ← value? fuel depth cs
      match ← skipLines false cs with
      | ',' :: cs =>
        let (vs, cs) ← elements? fuel depth cs
        return (v :: vs, cs)
      | ']' :: cs => return ([v], cs)
      | _ => none

/-- The entries of an inline table up to its end, after those so far. -/
def pairs? (fuel depth : Nat) (es : Entries) (cs : List Char) : Option (Entries × List Char) :=
  match fuel with
  | 0 => none
  | fuel + 1 => do
    let ((path, key), cs) ← dottedKey? maxDepth cs
    match cs with
    | '=' :: cs =>
      let (v, cs) ← value? fuel depth (skipBlanks cs)
      let es ← put? path key v .header es
      match skipBlanks cs with
      | ',' :: cs => pairs? fuel depth es cs
      | '\x7d' :: cs => return (es, cs)
      | _ => none
    | _ => none

end

/-! ## Documents -/

/-- A document so far. -/
structure Draft where
  entries : Entries
  /-- The path of the table that the next lines belong to. -/
  current : List String

namespace Draft

/-- The document with a key and its value added to the current table. -/
def put? (d : Draft) (path : List String) (key : String) (v : Toml) : Option Draft :=
  (within? .implied (Toml.put? path key v) .header d.current d.entries).map fun entries =>
    { d with entries }

/-- Reads a header, of a table or of one more table of an array. -/
def header? (d : Draft) (cs : List Char) : Option (Draft × List Char) := do
  match cs with
  | '[' :: cs =>
    let ((path, key), cs) ← dottedKey? maxDepth cs
    match cs with
    | ']' :: ']' :: cs => return (⟨← openElement? path key d.entries, path ++ [key]⟩, cs)
    | _ => none
  | cs =>
    let ((path, key), cs) ← dottedKey? maxDepth cs
    match cs with
    | ']' :: cs => return (⟨← openTable? path key d.entries, path ++ [key]⟩, cs)
    | _ => none

/-- Reads a key and its value. -/
def line? (d : Draft) (cs : List Char) : Option (Draft × List Char) := do
  let ((path, key), cs) ← dottedKey? maxDepth cs
  match cs with
  | '=' :: cs =>
    let (v, cs) ← value? (2 * cs.length + 2) maxDepth (skipBlanks cs)
    return (← d.put? path key v, cs)
  | _ => none

/-- Reads on to the end. Each line takes one of `fuel`. -/
def lines? : Nat → Draft → List Char → Option Draft
  | 0, _, _ => none
  | fuel + 1, d, cs => do
    match ← skipLines false cs with
    | [] => return d
    | '[' :: cs =>
      let (d, cs) ← d.header? cs
      lines? fuel d (← endLine false cs)
    | cs =>
      let (d, cs) ← d.line? cs
      lines? fuel d (← endLine false cs)

end Draft

/-- The characters with every line ending in a line feed alone. -/
def normalizeBreaks : List Char → List Char
  | '\r' :: '\n' :: cs => '\n' :: normalizeBreaks cs
  | c :: cs => c :: normalizeBreaks cs
  | [] => []

/-- The entries of a document. A mark of byte order at its front is left out. -/
def parse? (text : String) : Option Entries :=
  let cs :=
    match text.toList with
    | '\uFEFF' :: cs => cs
    | cs => cs
  let cs := normalizeBreaks cs
  (Draft.lines? (cs.length + 1) ⟨[], []⟩ cs).map Draft.entries

end Toml

end Chainwalk
