import Chainwalk.Proofs.Command.Written

/-!
# How lines are cut

A quote opens or closes, so a character of a line stands between quotes exactly if an odd number of
quotes is before it, and a line can be cut exactly if its quotes are even in number. Then its words
are all of the line but the quotes and the blanks that stand outside them, in the same order, and
where the words end is settled by the blanks outside quotes alone: a line is cut at such a blank as
its two sides are cut apart. Words in quotes are thereby cut out as they are, however many blanks
are between them.

* `Words.cutFrom_eq_none_iff`, `Words.cut_eq_none_iff`: which lines can be cut;
* `Words.flatten_of_cut`: what the words of a line are made of;
* `Words.cut_append_blank`: cutting at a blank outside quotes;
* `Words.ofLine?_of_joined`: words in quotes with blanks between them;
* `Words.ofLine?_laws`: all of this, for texts.
-/

namespace Chainwalk

namespace Words

variable {quoted : Bool} {current : Option (List Char)} {cs a b : List Char}

/-! ## One character -/

theorem cutFrom_quote :
    cutFrom quoted current ('"' :: cs) = cutFrom (!quoted) (some (current.getD [])) cs := by
  cases current <;> rw [cutFrom, if_pos rfl]

/-- A character that is part of a word. -/
theorem cutFrom_char {c : Char} (hc : c ≠ '"') (hblank : ¬(Text.isBlank c && !quoted) = true) :
    cutFrom quoted current (c :: cs) = cutFrom quoted (some (c :: current.getD [])) cs := by
  cases current <;> rw [cutFrom, if_neg hc, if_neg hblank]

/-! ## Lines that can be cut -/

/-- A quote is left open if one is open before an even number of quotes, or none is before an odd
    one. -/
theorem cutFrom_eq_none_iff :
    cutFrom quoted current cs = none ↔ (quoted = true ↔ Even (cs.count '"')) := by
  fun_induction cutFrom quoted current cs with
  | case1 | case2 | case3 => simp
  | case4 quoted current cs ih =>
    rw [ih, List.count_cons_self, Nat.even_add_one]
    cases quoted <;> simp
  | case5 quoted c cs hc _ ih => rw [ih, List.count_cons_of_ne hc]
  | case6 quoted c cs hc _ begun ih => rw [Option.map_eq_none_iff, ih, List.count_cons_of_ne hc]
  | case7 quoted current c cs hc _ ih => rw [ih, List.count_cons_of_ne hc]

theorem cut_eq_none_iff : cut cs = none ↔ Odd (cs.count '"') := by
  rw [cut, cutFrom_eq_none_iff, ← Nat.not_even_iff_odd]
  simp

theorem ofLine?_eq_none_iff {line : String} :
    ofLine? line = none ↔ Odd (line.toList.count '"') := by
  rw [ofLine?, Option.map_eq_none_iff, cut_eq_none_iff]

/-! ## What the words are made of -/

/-- Whether a character is kept in a word, given whether it stands between quotes. -/
def keeps (quoted : Bool) (c : Char) : Bool := c ≠ '"' && (quoted || !Text.isBlank c)

/-- The characters of a line but the quotes and the blanks that stand outside quotes, which is
    behind an even number of them. -/
def content (line : List Char) : List Char :=
  (line.zipIdx.filter fun p => keeps (Odd ((line.take p.2).count '"')) p.1).map Prod.fst

/-- What is kept of the characters that are left. -/
def keptFrom : Bool → List Char → List Char
  | _, [] => []
  | quoted, c :: cs =>
    if c = '"' then keptFrom (!quoted) cs
    else if Text.isBlank c && !quoted then keptFrom quoted cs
    else c :: keptFrom quoted cs

/-- The content of a line, going through it and minding whether a quote is open. -/
theorem content_eq_keptFrom (line : List Char) : content line = keptFrom false line := by
  -- By induction on what is left, behind the part of the line that has been gone through.
  suffices hrest : ∀ rest before : List Char, before ++ rest = line →
      ((rest.zipIdx before.length).filter fun p =>
          keeps (Odd ((line.take p.2).count '"')) p.1).map Prod.fst =
        keptFrom (Odd (before.count '"')) rest by
    exact hrest line [] rfl
  intro rest
  induction rest with
  | nil => exact fun _ _ => rfl
  | cons c rest ih =>
    intro before hline
    have hnext := ih (before ++ [c]) (by rw [← hline, List.append_assoc, List.singleton_append])
    have htake : line.take before.length = before := by rw [← hline, List.take_left]
    rw [List.length_append, List.length_singleton, List.count_append] at hnext
    rw [List.zipIdx_cons, List.filter_cons, htake, keptFrom]
    by_cases hc : c = '"'
    · subst hc
      have hflip : decide (Odd (before.count '"' + List.count '"' ['"'])) =
          !decide (Odd (before.count '"')) := by
        rw [List.count_singleton_self, ← decide_not, decide_eq_decide, Nat.odd_add_one]
      rw [hflip] at hnext
      rw [if_neg (by simp [keeps]), hnext, if_pos rfl]
    · have hsame : List.count '"' [c] = 0 := List.count_eq_zero.2 (by simpa using Ne.symm hc)
      rw [hsame, Nat.add_zero] at hnext
      rw [if_neg hc]
      cases hquoted : decide (Odd (before.count '"')) <;> cases hblank : Text.isBlank c <;>
        simp_all [keeps]

/-- The words are the one that was begun and what is kept of the rest. -/
theorem flatten_of_cutFrom {words : List (List Char)}
    (h : cutFrom quoted current cs = some words) :
    words.flatten = (current.getD []).reverse ++ keptFrom quoted cs := by
  fun_induction cutFrom quoted current cs generalizing words with
  | case1 => cases h
  | case2 => cases h; rfl
  | case3 begun => cases h; simp [keptFrom]
  | case4 quoted current cs ih => rw [ih h, keptFrom, if_pos rfl, Option.getD_some]
  | case5 quoted c cs hc hblank ih => rw [ih h, keptFrom, if_neg hc, if_pos hblank]
  | case6 quoted c cs hc hblank begun ih =>
    obtain ⟨rest, hrest, rfl⟩ := Option.map_eq_some_iff.1 h
    rw [List.flatten_cons, ih hrest, keptFrom, if_neg hc, if_pos hblank]
    rfl
  | case7 quoted current c cs hc hblank ih =>
    rw [ih h, keptFrom, if_neg hc, if_neg hblank, Option.getD_some, List.reverse_cons,
      List.append_assoc, List.singleton_append]

/-- Put together, the words of a line are its content. -/
theorem flatten_of_cut {words : List (List Char)} (h : cut cs = some words) :
    words.flatten = content cs := by
  rw [flatten_of_cutFrom h, content_eq_keptFrom]
  rfl

theorem join_of_ofLine? {line : String} {words : List String} (h : ofLine? line = some words) :
    String.join words = String.ofList (content line.toList) := by
  obtain ⟨cut, hcut, rfl⟩ := Option.map_eq_some_iff.1 h
  rw [← String.toList_inj, String.toList_join, String.toList_ofList, ← flatten_of_cut hcut,
    List.flatMap_map]
  simp [List.flatMap_def]

/-! ## Blanks outside quotes -/

/-- A blank outside quotes ends the words before it, and the words after it begin anew. -/
theorem cutFrom_append_blank {w : Char} (hw : Text.isBlank w) {words : List (List Char)}
    (h : cutFrom quoted current a = some words) :
    cutFrom quoted current (a ++ w :: b) = (cut b).map (words ++ ·) := by
  have hquote : w ≠ '"' := by rintro rfl; revert hw; decide
  fun_induction cutFrom quoted current a generalizing words with
  | case1 => cases h
  | case2 =>
    cases h
    rw [List.nil_append, cutFrom, if_neg hquote, if_pos (by simpa using hw)]
    exact Option.map_id'.symm
  | case3 begun =>
    cases h
    rw [List.nil_append, cutFrom, if_neg hquote, if_pos (by simpa using hw)]
    rfl
  | case4 quoted current cs ih => rw [List.cons_append, cutFrom_quote, ih h]
  | case5 quoted c cs hc hblank ih =>
    rw [List.cons_append, cutFrom, if_neg hc, if_pos hblank, ih h]
  | case6 quoted c cs hc hblank begun ih =>
    obtain ⟨rest, hrest, rfl⟩ := Option.map_eq_some_iff.1 h
    rw [List.cons_append, cutFrom, if_neg hc, if_pos hblank, ih hrest, Option.map_map]
    rfl
  | case7 quoted current c cs hc hblank ih =>
    rw [List.cons_append, cutFrom_char hc hblank, ih h]

/-- A line is cut at a blank outside quotes as its two sides are cut. -/
theorem ofLine?_append_blank {a b : String} {w : Char} (hw : Text.isBlank w) {words : List String}
    (h : ofLine? a = some words) :
    ofLine? (a ++ String.singleton w ++ b) = (ofLine? b).map (words ++ ·) := by
  obtain ⟨before, hbefore, rfl⟩ := Option.map_eq_some_iff.1 h
  have hcut : cut (a.toList ++ w :: b.toList) = (cut b.toList).map (before ++ ·) :=
    cutFrom_append_blank hw hbefore
  have hlist : (a ++ String.singleton w ++ b).toList = a.toList ++ w :: b.toList := by simp
  rw [ofLine?, ofLine?, hlist, hcut, Option.map_map, Option.map_map]
  congr 1
  funext rest
  simp

/-! ## Words in quotes -/

/-- A text is some others, one after another with at least one blank between any two. -/
inductive Joined : List String → String → Prop
  | nil : Joined [] ""
  | single (word : String) : Joined [word] word
  | cons {word next gap line : String} {words : List String} (hgap : gap ≠ "")
      (hblank : ∀ c ∈ gap.toList, Text.isBlank c) (hline : Joined (next :: words) line) :
      Joined (word :: next :: words) (word ++ gap ++ line)

theorem ofLine?_wrap {word : String} (hword : '"' ∉ word.toList) :
    ofLine? (wrap word) = some [word] := by
  have hlist : (wrap word).toList = '"' :: (word.toList ++ ['"']) := by simp [wrap]
  have hcut : cut ('"' :: (word.toList ++ ['"'])) = some [word.toList] :=
    (cutFrom_quoted hword [] []).trans (by simp [cutFrom])
  rw [ofLine?, hlist, hcut]
  simp

/-- Blanks in front of a line change nothing. -/
theorem ofLine?_blanks_append {gap : List Char} (hgap : ∀ c ∈ gap, Text.isBlank c)
    (line : String) : ofLine? (String.ofList gap ++ line) = ofLine? line := by
  induction gap with
  | nil => rw [String.ofList_nil, String.empty_append]
  | cons c gap ih =>
    rw [List.forall_mem_cons] at hgap
    have hcons : String.ofList (c :: gap) ++ line =
        "" ++ String.singleton c ++ (String.ofList gap ++ line) := by
      rw [← String.toList_inj]
      simp
    have hempty : ofLine? "" = some [] := rfl
    rw [hcons, ofLine?_append_blank hgap.1 hempty, ih hgap.2]
    exact Option.map_id'

/-- Words in quotes are cut apart as they are. -/
theorem ofLine?_of_joined {words : List String} (hwords : ∀ w ∈ words, '"' ∉ w.toList)
    {line : String} (h : Joined (words.map wrap) line) : ofLine? line = some words := by
  induction words generalizing line with
  | nil => cases h; rfl
  | cons word words ih =>
    rw [List.forall_mem_cons] at hwords
    rcases words with _ | ⟨next, words⟩
    · cases h
      exact ofLine?_wrap hwords.1
    · cases h with
      | @cons _ _ gap rest _ hne hblank hrest =>
        -- The first blank ends the quoted word, and those after it change nothing.
        obtain ⟨c, gap', hgap⟩ :=
          List.exists_cons_of_ne_nil (fun hnil => hne (String.toList_eq_nil_iff.1 hnil))
        rw [hgap, List.forall_mem_cons] at hblank
        have hline : wrap word ++ gap ++ rest =
            wrap word ++ String.singleton c ++ (String.ofList gap' ++ rest) := by
          rw [← String.toList_inj]
          simp [hgap]
        rw [hline, ofLine?_append_blank hblank.1 (ofLine?_wrap hwords.1),
          ofLine?_blanks_append hblank.2, ih hwords.2 hrest]
        rfl

/-! ## The laws of cutting -/

/-- A line is cut into words exactly if its quotes are even in number. Its words have no quotes, and
    are all of the line but the quotes and the blanks outside them. At a blank behind an even number
    of quotes it is cut as its two sides are. Words without quotes are cut apart as they are from a
    line in which they stand in quotes with blanks between them. -/
theorem ofLine?_laws :
    (∀ line, ofLine? line = none ↔ Odd (line.toList.count '"')) ∧
    (∀ line words, ofLine? line = some words →
      (∀ w ∈ words, '"' ∉ w.toList) ∧
        String.join words = String.ofList (content line.toList)) ∧
    (∀ a, Even (a.toList.count '"') → ∃ words, ofLine? a = some words ∧
      ∀ w b, Text.isBlank w →
        ofLine? (a ++ String.singleton w ++ b) = (ofLine? b).map (words ++ ·) ∧
          (ofLine? (a ++ String.singleton w ++ b) = none ↔ ofLine? b = none)) ∧
    (∀ words line, (∀ w ∈ words, '"' ∉ w.toList) → Joined (words.map wrap) line →
      ofLine? line = some words) := by
  refine ⟨fun line => ofLine?_eq_none_iff, fun line words h => ⟨not_mem_of_ofLine? h,
    join_of_ofLine? h⟩, fun a heven => ?_, fun words line hwords h => ofLine?_of_joined hwords h⟩
  have hcut : ofLine? a ≠ none := by
    rw [Ne, ofLine?_eq_none_iff, Nat.not_odd_iff_even]
    exact heven
  obtain ⟨words, hwords⟩ := Option.ne_none_iff_exists'.1 hcut
  refine ⟨words, hwords, fun w b hw => ?_⟩
  have happend : ofLine? (a ++ String.singleton w ++ b) = (ofLine? b).map (words ++ ·) :=
    ofLine?_append_blank hw hwords
  exact ⟨happend, happend ▸ Option.map_eq_none_iff⟩

/-- Pieces with and without quotes that touch are one word, nothing in quotes is a word, and a quote
    that is left open behind a blank cannot be cut. -/
theorem ofLine?_laws_pieces :
    ofLine? "x\"a b\"\"\" \"" = none ∧
    String.join ["xa b", ""] = String.ofList (content "x\"a b\"\"\" \"\"".toList) ∧
    (ofLine? ("x\"a b\"" ++ String.singleton '\t' ++ "y\"") = none ↔ ofLine? "y\"" = none) ∧
    ofLine? (wrap "" ++ " \t" ++ wrap "a b") = some ["", "a b"] := by
  obtain ⟨hopen, hmade, hblank, hjoined⟩ := ofLine?_laws
  refine ⟨(hopen _).2 (by decide), (hmade _ _ (by cbv)).2, ?_, ?_⟩
  · obtain ⟨_, _, hright⟩ := hblank "x\"a b\"" (by decide)
    exact (hright '\t' "y\"" (by decide)).2
  · exact hjoined ["", "a b"] _ (by decide)
      (.cons (by decide) (by simp [Text.isBlank]) (.single (wrap "a b")))

end Words

end Chainwalk
