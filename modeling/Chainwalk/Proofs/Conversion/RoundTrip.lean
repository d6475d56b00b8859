import Chainwalk.Proofs.Number.Decimal
import Chainwalk.Proofs.Registry.Shipped
import Chainwalk.Proofs.Text.Elements

/-!
# Arrays and lists as text and back

Arrays and lists of strings are written as their elements in brackets, and the texts of the elements
are then read one by one. So the text of an array stands for the array if each element is written as
one element of a list of words and is read from what is written of it. Numbers and booleans always
are; characters and strings are as far as the list of words leaves them whole. The elements of a
list go through the registry once more, which takes one word for null.

Reading makes new objects, so what is read can be what was written but for the identities.

* `Object.untagged`: an object, the identities of values apart;
* `Registry.ReadsBack`: what is written of an object is read as the same but for the identities;
* `Registry.readsBack_array_iff`, `Registry.readsBack_list_iff`: by the texts of the elements;
* `Registry.readsBack_arrays_and_lists`: which arrays and lists are read back.
-/

namespace Chainwalk

/-! ## Objects without identities -/

namespace Object

mutual

/-- An object, the identities of values and lists apart. -/
def untagged : Object → Object
  | value _ datum => value 0 datum
  | list _ elements => list 0 (untaggedAll elements)
  | o => o

/-- The elements of a list, their identities apart. -/
def untaggedAll : List (Option Object) → List (Option Object)
  | [] => []
  | v :: vs => untaggedValue v :: untaggedAll vs

/-- An object or null, its identity apart. -/
def untaggedValue : Option Object → Option Object
  | none => none
  | some o => some (untagged o)

end

/-- A string, whatever its identity. -/
def ofString (item : Nat × String) : Object := value item.1 (.scalar .string item.2)

theorem untaggedAll_strings (items : List (Nat × String)) :
    untaggedAll (items.map fun i => some (ofString i)) =
      (items.map Prod.snd).map fun s => some (ofString (0, s)) := by
  induction items with
  | nil => rfl
  | cons i items ih =>
    rw [List.map_cons, untaggedAll, ih]
    rfl

end Object

/-! ## Elements one by one -/

/-- A list is read one element after the other. -/
theorem mapM_eq_ok_iff {α β ε : Type} {read : β → Except ε α} {ys : List β} {xs : List α} :
    ys.mapM read = .ok xs ↔ List.Forall₂ (fun y x => read y = .ok x) ys xs := by
  induction ys generalizing xs with
  | nil =>
    rw [List.mapM_nil, List.forall₂_nil_left_iff]
    constructor
    · rintro ⟨⟩
      rfl
    · rintro rfl
      rfl
  | cons y ys ih =>
    rw [List.mapM_cons, List.forall₂_cons_left_iff]
    constructor
    · intro hok
      rcases hy : read y with e | x
      · rw [hy] at hok
        contradiction
      rcases hys : ys.mapM read with e | xs'
      · rw [hy, hys] at hok
        contradiction
      rw [hy, hys] at hok
      obtain rfl : x :: xs' = xs := Except.ok.inj hok
      exact ⟨x, xs', rfl, ih.1 hys, rfl⟩
    · rintro ⟨x, xs', hy, hys, rfl⟩
      rw [hy, ih.2 hys]
      rfl

namespace Text

theorem isElement_of_forall {s : String} (hne : s.toList ≠ [])
    (hs : ∀ c ∈ s.toList, c ≠ ',' ∧ ¬isBlank c) : IsElement s := by
  refine isElement_iff.2 ⟨hne, fun hcomma => ?_, trimmed_of_forall fun c hc => (hs c hc).2⟩
  exact (hs ',' hcomma).1 rfl

/-- A whole number is written without commas and blanks. -/
theorem unbroken_of_mem_toString {n : Int} {c : Char} (hc : c ∈ (toString n).toList) :
    c ≠ ',' ∧ ¬isBlank c := by
  rcases isDigit_or_eq_of_mem_toString hc with hdigit | rfl
  · refine ⟨?_, not_isBlank_of_isDigit hdigit⟩
    rintro rfl
    contradiction
  · decide

/-- A whole number is written as one element. -/
theorem isElement_toString (n : Int) : IsElement (toString n) :=
  isElement_of_forall (toList_toString_ne_nil n) fun _ => unbroken_of_mem_toString

/-- Brackets do not stand for null. -/
theorem bracketed_ne_nullToken (items : List String) : bracketed items ≠ Registry.nullToken := by
  intro heq
  have hfirst := congrArg (List.head? ∘ String.toList) heq
  simp [bracketed, Registry.nullToken] at hfirst

end Text

/-! ## Scalars -/

namespace IntegerWidth

theorem readInteger_toString {w : IntegerWidth} {n : Int} (hl : w.least ≤ n)
    (hg : n ≤ w.greatest) : readInteger w (toString n) = .ok n := by
  obtain ⟨-, -, htrim⟩ := Text.isElement_toString n
  rw [readInteger, htrim, read_toString hl hg]
  rfl

end IntegerWidth

namespace ScalarKind

/-- The kinds of truth values and of whole numbers. -/
def whole : List ScalarKind := [boolean, byte, short, int, long]

theorem isElement_text {k : ScalarKind} (hk : k ∈ whole) (v : k.Carrier) :
    Text.IsElement (k.text v) := by
  simp only [whole, List.mem_cons, List.not_mem_nil, or_false] at hk
  rcases hk with rfl | rfl | rfl | rfl | rfl
  · rcases v with _ | _ <;> exact Text.isElement_iff.2 (by decide +kernel)
  all_goals exact Text.isElement_toString _

/-- What is written of a truth value or a whole number is read as it. -/
theorem read_text {k : ScalarKind} (hk : k ∈ whole) (v : k.Carrier) :
    k.read (k.text v) = .ok v := by
  simp only [whole, List.mem_cons, List.not_mem_nil, or_false] at hk
  rcases hk with rfl | rfl | rfl | rfl | rfl
  · rcases v with _ | _ <;> decide
  · have hread := IntegerWidth.readInteger_toString (w := .signed 8) (Int8.le_toInt v)
      (Int8.toInt_le v)
    rw [read, text, hread]
    exact congrArg _ (Int8.ofInt_toInt v)
  · have hread := IntegerWidth.readInteger_toString (w := .signed 16) (Int16.le_toInt v)
      (Int16.toInt_le v)
    rw [read, text, hread]
    exact congrArg _ (Int16.ofInt_toInt v)
  · have hread := IntegerWidth.readInteger_toString (w := .signed 32) (Int32.le_toInt v)
      (Int32.toInt_le v)
    rw [read, text, hread]
    exact congrArg _ (Int32.ofInt_toInt v)
  · have hread := IntegerWidth.readInteger_toString (w := .signed 64) (Int64.le_toInt v)
      (Int64.toInt_le v)
    rw [read, text, hread]
    exact congrArg _ (Int64.ofInt_toInt v)

/-- A character is read from its own text and from no other. -/
theorem read_char_eq_ok_iff {s : String} {c : Char} : char.read s = .ok c ↔ s = char.text c := by
  rw [read, text, ← String.toList_inj, String.toList_singleton, readChar]
  split
  · rename_i d hd
    rw [hd]
    simp
  · rename_i hd
    simpa using hd c

theorem readAs_eq_ok_iff {h : Hierarchy} {c : Class} {k : ScalarKind} {s : String}
    {v : k.Carrier} : k.readAs h c s = .ok v ↔ k.read s = .ok v := by
  rw [readAs]
  rcases k.read s with e | w
  · simp [Except.mapError]
  · simp [Except.mapError]

end ScalarKind

namespace Registry

variable {h : Hierarchy} {sender : Option Sender}

/-- Whether what is written of an object is read as the same object, identities apart. -/
def ReadsBack (h : Hierarchy) (sender : Option Sender) (c : Class) (o : Object) (s : Store) :
    Prop :=
  ∃ o' t, plain.instantiate h sender c (plain.formatObject h s.realm o) s = .ok (some o', t) ∧
    o'.untagged = o.untagged

/-! ## Writing -/

theorem outputs_plain : plain.outputs =
    ScalarKind.all.map arrayOutput ++ [enumerationOutput, collectionOutput] := by
  cbv

/-- Arrays of a kind are written by the handler of just that kind. -/
theorem isA_array_iff {a : Builtin} {k : ScalarKind} :
    h.isA (.builtin a) (arrayOutput k).relevant ↔ a = .array k := by
  constructor
  · intro ha
    exact h.eq_of_isA_builtin (b := .array k) rfl ha
  · rintro rfl
    exact h.isA_self _

theorem outputFor?_plain_array (k : ScalarKind) :
    plain.outputFor? h (.array k) = some (arrayOutput k) := by
  have hfind : ScalarKind.all.find? (fun j => h.isA (.array k) (arrayOutput j).relevant) =
      some k := by
    have hown (j : ScalarKind) : h.isA (.array k) (arrayOutput j).relevant = decide (k = j) := by
      rw [Bool.eq_iff_iff, isA_array_iff]
      simp
    simp only [hown]
    cases k <;> rfl
  rw [outputFor?, outputs_plain, List.find?_append, List.find?_map, Function.comp_def, hfind]
  rfl

theorem find?_arrayOutput {a : Builtin} (ha : ∀ k, a ≠ .array k) :
    (ScalarKind.all.map arrayOutput).find? (fun o => h.isA (.builtin a) o.relevant) = none := by
  rw [List.find?_eq_none]
  intro o ho
  obtain ⟨k, -, rfl⟩ := List.mem_map.1 ho
  rw [isA_array_iff]
  exact ha k

theorem outputFor?_plain_string : plain.outputFor? h .string = none := by
  rw [outputFor?, outputs_plain, List.find?_append, find?_arrayOutput (by simp), Option.none_or]
  simp [enumerationOutput, collectionOutput, Hierarchy.isA_builtins_iff, Builtin.above]

theorem outputFor?_plain_arrayList : plain.outputFor? h .arrayList = some collectionOutput := by
  rw [outputFor?, outputs_plain, List.find?_append, find?_arrayOutput (by simp), Option.none_or]
  simp [enumerationOutput, collectionOutput, Hierarchy.isA_builtins_iff, Builtin.above]

theorem registered?_plain_array (k : ScalarKind) :
    plain.registered? (.array k) = some (arrayInput k) := by
  cases k <;> cbv

theorem inputFor?_plain_array (k : ScalarKind) :
    plain.inputFor? h (.array k) = some (arrayInput k) :=
  inputFor?_of_registered? (registered?_plain_array k)

theorem inputFor?_plain_list : plain.inputFor? h .list = some collectionInput := by
  have hnone : plain.registered? .list = none := by cbv
  have hpolymorphic : plain.polymorphic = [enumerationInput, collectionInput] := by cbv
  rw [inputFor?, hnone, hpolymorphic, Option.none_or]
  simp [enumerationInput, collectionInput, Hierarchy.isA_builtins_iff, Builtin.above]

theorem formatObject_array {realm : Realm} (k : ScalarKind) (tag : Nat) (vs : List k.Carrier) :
    plain.formatObject h realm (.value tag (.array k vs)) = Text.bracketed (vs.map k.text) := by
  have hout : plain.outputFor? h (Object.value tag (.array k vs)).class_ = some (arrayOutput k) :=
    outputFor?_plain_array k
  have hview : (Object.value tag (.array k vs)).view? h (.array k) =
      some (.whole (.value tag (.array k vs))) := if_pos rfl
  rw [formatObject, hout]
  simp only [arrayOutput, hview, if_true]

theorem formatObject_string {realm : Realm} (tag : Nat) (t : String) :
    plain.formatObject h realm (.value tag (.scalar .string t)) = t := by
  have hout : plain.outputFor? h (Object.value tag (.scalar .string t)).class_ = none :=
    outputFor?_plain_string
  rw [formatObject, hout]
  rfl

theorem formatObject_list {realm : Realm} (tag : Nat) (vs : List Value) :
    plain.formatObject h realm (.list tag vs) =
      Text.bracketed (vs.map fun v => (plain.format? h realm v).getD "null") := by
  have hout : plain.outputFor? h (Object.list tag vs).class_ = some collectionOutput :=
    outputFor?_plain_arrayList
  rw [formatObject, hout]
  refine congrArg Text.bracketed ?_
  rw [← List.attach_map_val (l := vs)]
  refine List.map_congr_left fun v _ => ?_
  obtain ⟨_ | o, hv⟩ := v <;> rfl

theorem formatObject_strings {realm : Realm} (tag : Nat) (items : List (Nat × String)) :
    plain.formatObject h realm (.list tag (items.map fun i => some (.ofString i))) =
      Text.bracketed (items.map Prod.snd) := by
  rw [formatObject_list, List.map_map]
  refine congrArg Text.bracketed (List.map_congr_left fun i _ => ?_)
  exact formatObject_string i.1 i.2

/-! ## Reading -/

/-- Reading as part of another reading. -/
def readPart (r : Registry) (h : Hierarchy) (sender : Option Sender) (c : Class) (part : String) :
    Act Value :=
  (r.attempt h sender c part).toAct

/-- What stands in brackets is left to the handler of the class. -/
theorem plain_instantiate_bracketed {c : Class} {i : InputHandler}
    (hi : plain.inputFor? h c = some i) (items : List String) (s : Store) :
    plain.instantiate h sender c (Text.bracketed items) s =
      answerOf (i.convert h sender (plain.readPart h sender) (Text.bracketed items) c s) := by
  have heq := @shipped_attempt_eq none h sender c (Text.bracketed items)
  have hpart : (fun d part => (plain.attempt h sender d part).toAct) = plain.readPart h sender :=
    rfl
  rw [if_neg (Text.bracketed_ne_nullToken items), shipped, hi, hpart] at heq
  rw [instantiate, heq]
  dsimp only
  rw [answer_adapt_wrap]

/-- What a text is read as in a list: itself, if it does not stand for null. -/
def elementOf (tag : Nat) (part : String) : Value :=
  if part = nullToken then none else some (.ofString (tag, part))

theorem exists_readPart_string (h : Hierarchy) (sender : Option Sender) (part : String)
    (s : Store) :
    ∃ t, plain.readPart h sender .string part s = (.ok (elementOf s.supply part), t) := by
  have heq := @shipped_attempt_eq none h sender .string part
  rw [inputFor?_shipped_string, shipped] at heq
  rw [readPart, heq, elementOf]
  split
  · exact ⟨s, rfl⟩
  · exact ⟨_, rfl⟩

theorem untaggedValue_elementOf (tag : Nat) (part : String) :
    Object.untaggedValue (elementOf tag part) = elementOf 0 part := by
  rw [elementOf, elementOf]
  split <;> rfl

theorem convert_arrayInput {k : ScalarKind} {nested : Class → String → Act Value}
    {literal : String} {c : Class} {s : Store} :
    (arrayInput k).convert h sender nested literal c s =
      match (Text.elementTexts literal).mapM (k.readAs h (.scalar k)) with
      | .ok vs => (.ok (some (.value s.supply (.array k vs))), { s with supply := s.supply + 1 })
      | .error fault => (.error fault, s) := by
  simp only [arrayInput]
  rw [bind_apply, Act.ofExcept]
  rcases (Text.elementTexts literal).mapM (k.readAs h (.scalar k)) with e | vs <;> rfl

/-- An array is read back if its elements are. -/
theorem readsBack_array_iff {k : ScalarKind} {tag : Nat} {vs : List k.Carrier} {s : Store} :
    ReadsBack h sender (.array k) (.value tag (.array k vs)) s ↔
      List.Forall₂ (fun part v => k.read part = .ok v)
        (Text.elementTexts (Text.bracketed (vs.map k.text))) vs := by
  have hread : List.Forall₂ (fun part v => k.read part = .ok v)
      (Text.elementTexts (Text.bracketed (vs.map k.text))) vs ↔
        (Text.elementTexts (Text.bracketed (vs.map k.text))).mapM (k.readAs h (.scalar k)) =
          .ok vs := by
    simp only [mapM_eq_ok_iff, ScalarKind.readAs_eq_ok_iff]
  rw [hread, ReadsBack, formatObject_array, plain_instantiate_bracketed (inputFor?_plain_array k),
    convert_arrayInput]
  constructor
  · rintro ⟨o', t, hok, hsame⟩
    rcases hvs : (Text.elementTexts (Text.bracketed (vs.map k.text))).mapM
      (k.readAs h (.scalar k)) with e | vs'
    · rw [hvs] at hok
      contradiction
    · rw [hvs] at hok
      cases hok
      cases hsame
      rfl
  · intro hvs
    rw [hvs]
    exact ⟨_, _, rfl, rfl⟩

/-- The elements of a list are read as strings, as far as they do not stand for null. -/
theorem exists_mapM_readPart_string (h : Hierarchy) (sender : Option Sender) (parts : List String)
    (s : Store) :
    ∃ vs t, parts.mapM (plain.readPart h sender .string) s = (.ok vs, t) ∧
      Object.untaggedAll vs = parts.map (elementOf 0) := by
  induction parts generalizing s with
  | nil => exact ⟨[], s, rfl, rfl⟩
  | cons part parts ih =>
    obtain ⟨t, ht⟩ := exists_readPart_string h sender part s
    obtain ⟨vs, u, hu, hvs⟩ := ih t
    refine ⟨elementOf s.supply part :: vs, u, ?_, ?_⟩
    · rw [List.mapM_cons, bind_apply_of_ok ht, bind_apply_of_ok hu]
      rfl
    · rw [Object.untaggedAll, hvs, untaggedValue_elementOf, List.map_cons]

/-- A list of strings is read back if its elements are. -/
theorem readsBack_list_iff {tag : Nat} {items : List (Nat × String)} {s : Store} :
    ReadsBack h sender .list (.list tag (items.map fun i => some (.ofString i))) s ↔
      (Text.elementTexts (Text.bracketed (items.map Prod.snd))).map (elementOf 0) =
        (items.map Prod.snd).map fun t => some (.ofString (0, t)) := by
  have hlist : h.isA .arrayList .list := h.isA_builtins_iff.2 (by decide)
  obtain ⟨vs, t, ht, hvs⟩ := exists_mapM_readPart_string h sender
    (Text.elementTexts (Text.bracketed (items.map Prod.snd))) s
  have hconvert : collectionInput.convert h sender (plain.readPart h sender)
      (Text.bracketed (items.map Prod.snd)) .list s =
        (.ok (some (.list t.supply vs)), { t with supply := t.supply + 1 }) := by
    simp only [collectionInput, hlist, Bool.not_true, Bool.false_eq_true, if_false]
    exact bind_apply_of_ok ht
  rw [← hvs, ← Object.untaggedAll_strings, ReadsBack, formatObject_strings,
    plain_instantiate_bracketed inputFor?_plain_list, hconvert]
  constructor
  · rintro ⟨o', u, hok, hsame⟩
    cases hok
    exact (Object.list.inj hsame).2
  · intro heq
    exact ⟨_, _, rfl, congrArg (Object.list 0) heq⟩

/-! ## What is read back -/

theorem readsBack_whole {k : ScalarKind} (hk : k ∈ ScalarKind.whole) (tag : Nat)
    (vs : List k.Carrier) (s : Store) :
    ReadsBack h sender (.array k) (.value tag (.array k vs)) s := by
  have hparts : Text.elementTexts (Text.bracketed (vs.map k.text)) = vs.map k.text :=
    Text.elementTexts_bracketed_eq_self (List.forall_mem_map.2 fun v _ =>
      ScalarKind.isElement_text hk v)
  rw [readsBack_array_iff, hparts, List.forall₂_map_left_iff, List.forall₂_same]
  exact fun v _ => ScalarKind.read_text hk v

/-- Where an element is read from its own text only, an array is read back if the list of words
    leaves the texts whole. -/
theorem readsBack_array_iff_isElement {k : ScalarKind}
    (hread : ∀ part (v : k.Carrier), k.read part = .ok v ↔ part = k.text v) {tag : Nat}
    {vs : List k.Carrier} {s : Store} :
    ReadsBack h sender (.array k) (.value tag (.array k vs)) s ↔
      ∀ v ∈ vs, Text.IsElement (k.text v) := by
  rw [readsBack_array_iff]
  simp only [hread]
  rw [← List.forall₂_map_right_iff, List.forall₂_eq_eq_eq, Text.elementTexts_bracketed_eq_iff,
    List.forall_mem_map]

theorem elementOf_eq_some_iff {part t : String} :
    elementOf 0 part = some (.ofString (0, t)) ↔ part ≠ nullToken ∧ part = t := by
  rw [elementOf]
  split
  · rename_i hnull
    simp [hnull]
  · rename_i hnull
    simp [hnull, Object.ofString]

/-- No text is left out and none stands for null. -/
theorem map_elementOf_eq_iff {parts texts : List String} :
    parts.map (elementOf 0) = texts.map (fun t => some (.ofString (0, t))) ↔
      parts = texts ∧ ∀ t ∈ texts, t ≠ nullToken := by
  have hparts : parts.map (elementOf 0) = texts.map (fun t => some (.ofString (0, t))) ↔
      (∀ part ∈ parts, part ≠ nullToken) ∧ parts = texts := by
    rw [← List.forall₂_eq_eq_eq, List.forall₂_map_left_iff, List.forall₂_map_right_iff]
    simp only [elementOf_eq_some_iff]
    rw [List.forall₂_and_left, List.forall₂_eq_eq_eq]
  rw [hparts]
  constructor
  · rintro ⟨hnull, rfl⟩
    exact ⟨rfl, hnull⟩
  · rintro ⟨rfl, hnull⟩
    exact ⟨hnull, rfl⟩

/-- Arrays of truth values and of whole numbers are read back. Arrays of characters are if none of
    these is a comma or a blank, arrays of strings if each string is one element of a list of words,
    and lists of strings if, besides, none of these stands for null. -/
theorem readsBack_arrays_and_lists (h : Hierarchy) (sender : Option Sender) (s : Store) :
    (∀ k ∈ ScalarKind.whole, ∀ tag vs,
      ReadsBack h sender (.array k) (.value tag (.array k vs)) s) ∧
    (∀ tag cs, ReadsBack h sender (.array .char) (.value tag (.array .char cs)) s ↔
      ∀ c ∈ cs, c ≠ ',' ∧ ¬Text.isBlank c) ∧
    (∀ tag ts, ReadsBack h sender (.array .string) (.value tag (.array .string ts)) s ↔
      ∀ t ∈ ts, Text.IsElement t) ∧
    ∀ tag (items : List (Nat × String)),
      ReadsBack h sender .list (.list tag (items.map fun i => some (.ofString i))) s ↔
        ∀ i ∈ items, Text.IsElement i.2 ∧ i.2 ≠ nullToken := by
  refine ⟨?whole, ?chars, ?strings, ?list⟩
  case whole => exact fun k hk tag vs => readsBack_whole hk tag vs s
  case chars =>
    intro tag cs
    rw [readsBack_array_iff_isElement fun _ _ => ScalarKind.read_char_eq_ok_iff]
    simp only [ScalarKind.text, Text.isElement_singleton_iff]
  case strings =>
    intro tag ts
    exact readsBack_array_iff_isElement fun part t => by simp [ScalarKind.read, ScalarKind.text]
  case list =>
    intro tag items
    rw [readsBack_list_iff, map_elementOf_eq_iff, Text.elementTexts_bracketed_eq_iff,
      List.forall_mem_map, List.forall_mem_map, ← forall₂_and]

end Registry

end Chainwalk
