import Mathlib
import Chainwalk.Conversion.Literal

/-!
# Elements of a list of words

Texts are written side by side in brackets, with a comma and a space between two of them, and read
from there as the pieces between commas, blanks around them apart, as far as these are not empty.
So each text is read on its own, and it is read as itself exactly if it is one element.

* `Text.cut_intercalate`: texts with a separator between them are cut apart;
* `Text.words_append`, `Text.words_intercalate`: commas cut words apart;
* `Text.elementTexts_bracketed`: what is read from texts in brackets;
* `Text.elementTexts_bracketed_eq_iff`: the texts are read back exactly if each is one element.
-/

namespace Chainwalk

namespace Text

/-! ## Blanks at the ends -/

theorem trimmed_eq_rdropWhile (cs : List Char) :
    trimmed cs = (cs.dropWhile isBlank).rdropWhile isBlank := rfl

theorem trimmed_trimmed (cs : List Char) : trimmed (trimmed cs) = trimmed cs := by
  have hfront : (trimmed cs).dropWhile isBlank = trimmed cs := by
    rw [List.dropWhile_eq_self_iff]
    intro hlength
    -- The first character has not been dropped, and it is still the first.
    have hstart : trimmed cs <+: cs.dropWhile isBlank := List.rdropWhile_prefix _ _
    have hfirst := List.dropWhile_eq_self_iff.1 (List.dropWhile_idempotent isBlank cs)
    rw [hstart.getElem hlength]
    exact hfirst (hlength.trans_le hstart.length_le)
  rw [trimmed_eq_rdropWhile (trimmed cs), hfront, trimmed_eq_rdropWhile,
    List.rdropWhile_idempotent]

theorem trimmed_cons_of_isBlank {c : Char} (hc : isBlank c) (cs : List Char) :
    trimmed (c :: cs) = trimmed cs := by
  rw [trimmed_eq_rdropWhile, List.dropWhile_cons_of_pos hc, ← trimmed_eq_rdropWhile]

/-- A text that neither begins nor ends with a blank stays as it is. -/
theorem trimmed_of_not_isBlank {c d : Char} (hc : ¬isBlank c) (hd : ¬isBlank d) (cs : List Char) :
    trimmed (c :: (cs ++ [d])) = c :: (cs ++ [d]) := by
  rw [trimmed_eq_rdropWhile, List.dropWhile_cons_of_neg hc, List.rdropWhile_eq_self_iff]
  intro hne
  rwa [List.getLast_cons (by simp), List.getLast_append_singleton]

theorem trimmed_of_forall {cs : List Char} (hcs : ∀ c ∈ cs, ¬isBlank c) : trimmed cs = cs := by
  have hfront : cs.dropWhile isBlank = cs :=
    List.dropWhile_eq_self_iff.2 fun _ => hcs _ (List.getElem_mem _)
  rw [trimmed_eq_rdropWhile, hfront, List.rdropWhile_eq_self_iff]
  exact fun hne => hcs _ (List.getLast_mem hne)

theorem not_isBlank_of_isDigit {c : Char} (hc : c.isDigit) : ¬isBlank c := by
  simp only [Char.isDigit, Bool.and_eq_true, decide_eq_true_eq] at hc
  obtain ⟨hl, hg⟩ := hc
  have hl : 48 ≤ c.toNat := UInt32.le_iff_toNat_le.1 hl
  have hg : c.toNat ≤ 57 := UInt32.le_iff_toNat_le.1 hg
  simp only [isBlank, Bool.or_eq_true, Bool.and_eq_true, decide_eq_true_eq, beq_iff_eq]
  omega

theorem trimmed_singleton_eq_self_iff {c : Char} : trimmed [c] = [c] ↔ ¬isBlank c := by
  constructor
  · intro htrim hc
    rw [trimmed_cons_of_isBlank hc, trimmed_nil] at htrim
    cases htrim
  · intro hc
    exact trimmed_of_forall fun d hd => List.mem_singleton.1 hd ▸ hc

/-! ## Pieces -/

theorem pieces_append_cons (sep : Char) (as bs : List Char) :
    pieces sep (as ++ sep :: bs) = pieces sep as ++ pieces sep bs := by
  induction as with
  | nil => simp [pieces]
  | cons c as ih =>
    rw [List.cons_append, pieces, pieces, ih]
    obtain ⟨p, ps, hp⟩ := List.exists_cons_of_ne_nil (pieces_ne_nil sep as)
    split
    · rfl
    · rw [hp]
      rfl

theorem pieces_cons_of_ne {sep c : Char} (hc : c ≠ sep) (cs : List Char) :
    ∃ p ps, pieces sep cs = p :: ps ∧ pieces sep (c :: cs) = (c :: p) :: ps := by
  obtain ⟨p, ps, hp⟩ := List.exists_cons_of_ne_nil (pieces_ne_nil sep cs)
  exact ⟨p, ps, hp, by rw [pieces, if_neg hc, hp]⟩

theorem pieces_of_not_mem {sep : Char} {cs : List Char} (hcs : sep ∉ cs) :
    pieces sep cs = [cs] := by
  induction cs with
  | nil => rfl
  | cons c cs ih =>
    rw [List.mem_cons, not_or] at hcs
    rw [pieces, if_neg (Ne.symm hcs.1), ih hcs.2]

theorem not_mem_of_mem_pieces {sep : Char} {cs p : List Char} (hp : p ∈ pieces sep cs) :
    sep ∉ p := by
  induction cs generalizing p with
  | nil =>
    rw [pieces_nil, List.mem_singleton] at hp
    rw [hp]
    exact List.not_mem_nil
  | cons c cs ih =>
    by_cases hc : c = sep
    · rw [pieces, if_pos hc] at hp
      rcases List.mem_cons.1 hp with rfl | hp
      · exact List.not_mem_nil
      · exact ih hp
    · obtain ⟨q, qs, hq, hcons⟩ := pieces_cons_of_ne hc cs
      rw [hq] at ih
      rw [hcons] at hp
      rcases List.mem_cons.1 hp with rfl | hp
      · rw [List.mem_cons, not_or]
        exact ⟨Ne.symm hc, ih List.mem_cons_self⟩
      · exact ih (List.mem_cons_of_mem _ hp)

theorem pieces_intercalate {sep : Char} {parts : List (List Char)} (hne : parts ≠ [])
    (hparts : ∀ p ∈ parts, sep ∉ p) : pieces sep ([sep].intercalate parts) = parts := by
  induction parts with
  | nil => exact absurd rfl hne
  | cons p parts ih =>
    obtain ⟨hp, hparts⟩ := List.forall_mem_cons.1 hparts
    rcases parts with _ | ⟨q, parts⟩
    · rw [List.intercalate_singleton, pieces_of_not_mem hp]
    · rw [List.intercalate_cons_cons, List.append_assoc, List.singleton_append,
        pieces_append_cons, pieces_of_not_mem hp, ih (List.cons_ne_nil q parts) hparts,
        List.singleton_append]

/-- Texts with a separator between them are cut apart there. -/
theorem cut_intercalate {sep : Char} {parts : List String} (hne : parts ≠ [])
    (hparts : ∀ p ∈ parts, sep ∉ p.toList) :
    cut sep ((String.singleton sep).intercalate parts) = parts := by
  rw [cut, String.toList_intercalate, String.toList_singleton,
    pieces_intercalate (by simpa using hne) (List.forall_mem_map.2 hparts), List.map_map]
  exact List.map_id'' (fun _ => String.ofList_toList) _

theorem afterFirst_eq_none {c : Char} {s : String} (hc : c ∉ s.toList) : afterFirst c s = none := by
  rw [afterFirst]
  split
  · rename_i d rest hs
    exact if_neg fun hd => hc (by rw [hs, hd]; exact List.mem_cons_self)
  · rfl

/-! ## Words -/

/-- The pieces between commas, blanks around them apart, that are not empty. -/
def words (cs : List Char) : List (List Char) :=
  ((pieces ',' cs).map trimmed).filter (!·.isEmpty)

theorem words_append (as bs : List Char) : words (as ++ ',' :: bs) = words as ++ words bs := by
  rw [words, pieces_append_cons, List.map_append, List.filter_append, words, words]

theorem words_cons_of_isBlank {c : Char} (hc : isBlank c) (cs : List Char) :
    words (c :: cs) = words cs := by
  have hcomma : c ≠ ',' := by
    rintro rfl
    cases hc
  obtain ⟨p, ps, hp, hcons⟩ := pieces_cons_of_ne hcomma cs
  rw [words, words, hp, hcons, List.map_cons, List.map_cons, trimmed_cons_of_isBlank hc]

theorem words_intercalate (items : List (List Char)) :
    words ([',', ' '].intercalate items) = items.flatMap words := by
  induction items with
  | nil => rfl
  | cons item items ih =>
    rcases items with _ | ⟨next, items⟩
    · rw [List.intercalate_singleton, List.flatMap_singleton]
    · have hspace : isBlank ' ' := by decide
      rw [List.intercalate_cons_cons, List.append_assoc, List.cons_append, List.cons_append,
        List.nil_append, words_append, words_cons_of_isBlank hspace, ih, ← List.flatMap_cons]

/-! ## Elements -/

/-- Whether a text is one element of a list of words. -/
def IsElement (s : String) : Prop := s ≠ "" ∧ ',' ∉ s.toList ∧ trim s = s

theorem isElement_iff {s : String} :
    IsElement s ↔ s.toList ≠ [] ∧ ',' ∉ s.toList ∧ trimmed s.toList = s.toList := by
  rw [IsElement, ← String.toList_inj, toList_trim, ne_eq, ← String.toList_inj, String.toList_empty]

theorem isElement_of_mem_words {cs w : List Char} (hw : w ∈ words cs) :
    IsElement (String.ofList w) := by
  obtain ⟨hmem, hne⟩ := List.mem_filter.1 hw
  obtain ⟨p, hp, rfl⟩ := List.mem_map.1 hmem
  rw [isElement_iff, String.toList_ofList]
  refine ⟨by simpa using hne, fun hcomma => not_mem_of_mem_pieces hp ?_, trimmed_trimmed p⟩
  -- Trimming only takes characters away.
  exact (List.dropWhile_suffix _).subset ((List.rdropWhile_prefix _ _).subset hcomma)

theorem words_of_isElement {s : String} (hs : IsElement s) : words s.toList = [s.toList] := by
  obtain ⟨hne, hcomma, htrim⟩ := isElement_iff.1 hs
  rw [words, pieces_of_not_mem hcomma, List.map_singleton, htrim]
  simpa using hne

theorem elements_brackets (cs : List Char) : elements ('[' :: (cs ++ [']'])) = words cs := by
  have htrim : trimmed ('[' :: (cs ++ [']'])) = '[' :: (cs ++ [']']) :=
    trimmed_of_not_isBlank (by decide) (by decide) cs
  have hinside : unbracketed ('[' :: (cs ++ [']'])) = cs := by
    rw [unbracketed, List.getLast?_concat]
    exact List.dropLast_concat
  rw [elements, htrim, hinside, words]

/-- Texts in brackets are read one after the other. -/
theorem elementTexts_bracketed (items : List String) :
    elementTexts (bracketed items) =
      items.flatMap fun s => (words s.toList).map String.ofList := by
  have hlist : (bracketed items).toList =
      '[' :: ([',', ' '].intercalate (items.map String.toList) ++ [']']) := by
    simp [bracketed, String.toList_intercalate]
  rw [elementTexts, hlist, elements_brackets, words_intercalate, List.flatMap_map,
    List.map_flatMap]

theorem isElement_of_mem_elementTexts {items : List String} {s : String}
    (hs : s ∈ elementTexts (bracketed items)) : IsElement s := by
  rw [elementTexts_bracketed] at hs
  obtain ⟨item, -, hs⟩ := List.mem_flatMap.1 hs
  obtain ⟨w, hw, rfl⟩ := List.mem_map.1 hs
  exact isElement_of_mem_words hw

theorem elementTexts_bracketed_eq_self {items : List String} (hs : ∀ s ∈ items, IsElement s) :
    elementTexts (bracketed items) = items := by
  rw [elementTexts_bracketed]
  induction items with
  | nil => rfl
  | cons s items ih =>
    rw [List.forall_mem_cons] at hs
    rw [List.flatMap_cons, words_of_isElement hs.1, ih hs.2, List.map_singleton,
      String.ofList_toList, List.singleton_append]

/-- Texts in brackets are read back exactly if each of them is one element. -/
theorem elementTexts_bracketed_eq_iff {items : List String} :
    elementTexts (bracketed items) = items ↔ ∀ s ∈ items, IsElement s := by
  constructor
  · intro heq s hs
    exact isElement_of_mem_elementTexts (heq.symm ▸ hs)
  · exact elementTexts_bracketed_eq_self

theorem isElement_singleton_iff {c : Char} :
    IsElement (String.singleton c) ↔ c ≠ ',' ∧ ¬isBlank c := by
  rw [isElement_iff, String.toList_singleton, trimmed_singleton_eq_self_iff, List.mem_singleton,
    eq_comm (a := ',')]
  simp

end Text

end Chainwalk
