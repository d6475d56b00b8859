import Mathlib
import Chainwalk.Object.Description

/-!
# Texts that come apart

Two texts that are made in the same way of different parts differ, if the parts do and nothing that
follows can make up for it. So what is told by parts is told by the text that they make.

* `ComeApart`, `Tells`: texts that are the same if a condition holds, and otherwise come
  apart, whatever follows;
* `Tells.natural`, `Tells.integer`: a number is told once it has come to its end;
* `Tells.row_number`, `Tells.row_field`, `Tells.record`: what fields tell, the record tells;
* `Tells.mapping`: a table tells the order of its entries.
-/

namespace Chainwalk

/-- Neither of two texts begins with the other: there is a first place where they differ. -/
inductive ComeApart : List Char → List Char → Prop
  | here {c d : Char} {xs ys : List Char} : c ≠ d → ComeApart (c :: xs) (d :: ys)
  | later {c : Char} {xs ys : List Char} : ComeApart xs ys → ComeApart (c :: xs) (c :: ys)

namespace ComeApart

variable {xs ys : List Char}

theorem append (h : ComeApart xs ys) (us vs : List Char) : ComeApart (xs ++ us) (ys ++ vs) := by
  induction h with
  | here hne => exact .here hne
  | later _ ih => exact .later ih

theorem behind (h : ComeApart xs ys) (start : List Char) :
    ComeApart (start ++ xs) (start ++ ys) := by
  induction start with
  | nil => exact h
  | cons c start ih => exact .later ih

theorem symm (h : ComeApart xs ys) : ComeApart ys xs := by
  induction h with
  | here hne => exact .here hne.symm
  | later _ ih => exact .later ih

theorem ne (h : ComeApart xs ys) : xs ≠ ys := by
  induction h with
  | here hne => exact fun heq => hne (List.cons.inj heq).1
  | later _ ih => exact fun heq => ih (List.cons.inj heq).2

/-- Two rows of digits come apart if a character follows that is no digit. -/
theorem of_digits {sep : Char} (hsep : ¬sep.isDigit) (hxs : ∀ c ∈ xs, c.isDigit)
    (hys : ∀ c ∈ ys, c.isDigit) (hne : xs ≠ ys) : ComeApart (xs ++ [sep]) (ys ++ [sep]) := by
  induction xs generalizing ys with
  | nil =>
    cases ys with
    | nil => exact absurd rfl hne
    | cons d ys => exact .here fun heq => hsep (heq ▸ hys d List.mem_cons_self)
  | cons c xs ih =>
    cases ys with
    | nil => exact .here fun heq => hsep (heq ▸ hxs c List.mem_cons_self)
    | cons d ys =>
      by_cases hcd : c = d
      · subst hcd
        refine .later (ih ?_ ?_ ?_)
        · exact fun e he => hxs e (List.mem_cons_of_mem _ he)
        · exact fun e he => hys e (List.mem_cons_of_mem _ he)
        · exact fun heq => hne (heq ▸ rfl)
      · exact .here hcd

end ComeApart

/-- Two texts are the same if the condition holds, and come apart otherwise. -/
structure Tells (p : Prop) (x y : String) : Prop where
  same : p → x = y
  apart : ¬p → ComeApart x.toList y.toList

open Description (row)

namespace Tells

variable {p q : Prop} {x y x' y' : String}

theorem refl (hp : p) (x : String) : Tells p x x := ⟨fun _ => rfl, fun hnot => absurd hp hnot⟩

theorem of_eq (hp : p) (hxy : x = y) : Tells p x y := hxy ▸ refl hp x

theorem congr (ht : Tells p x y) (hpq : p ↔ q) : Tells q x y := propext hpq ▸ ht

theorem eq_iff (ht : Tells p x y) : x = y ↔ p := by
  refine ⟨fun heq => ?_, ht.same⟩
  by_cases hp : p
  · exact hp
  · exact absurd (heq ▸ rfl) (ht.apart hp).ne

theorem append (ht : Tells p x y) (ht' : Tells q x' y') : Tells (p ∧ q) (x ++ x') (y ++ y') := by
  refine ⟨fun h => by rw [ht.same h.1, ht'.same h.2], fun hnot => ?_⟩
  rw [String.toList_append, String.toList_append]
  by_cases hp : p
  · -- The first parts are the same, so it is the second ones that come apart.
    rw [ht.same hp]
    exact (ht'.apart fun hq => hnot ⟨hp, hq⟩).behind _
  · exact (ht.apart hp).append _ _

theorem append_right (ht : Tells p x y) (z : String) : Tells p (x ++ z) (y ++ z) :=
  (ht.append (refl trivial z)).congr (iff_of_eq (and_true p))

theorem append_left (ht : Tells p x y) (z : String) : Tells p (z ++ x) (z ++ y) :=
  ((refl trivial z).append ht).congr (iff_of_eq (true_and p))

/-! ### Numbers -/

/-- A number ends where a character comes that is no digit. -/
theorem natural (m n : Nat) {sep : Char} (hsep : ¬sep.isDigit) :
    Tells (m = n) ((toString m).push sep) ((toString n).push sep) := by
  refine ⟨fun h => h ▸ rfl, fun hne => ?_⟩
  have hdigits (k : Nat) : ∀ c ∈ Nat.toDigits 10 k, c.isDigit := fun c hc =>
    Nat.isDigit_of_mem_toDigits (by decide) (by decide) hc
  have hd : Nat.toDigits 10 m ≠ Nat.toDigits 10 n := fun heq => hne <| by
    rw [← @Nat.ofDigitChars_ten_toDigits m, heq, Nat.ofDigitChars_ten_toDigits]
  -- Without the character one number might go on where the other ends.
  have hapart := ComeApart.of_digits hsep (hdigits m) (hdigits n) hd
  simpa [Nat.toList_repr] using hapart

/-- A sign comes apart from every digit. -/
theorem comeApart_sign (m n : Nat) (sep : Char) :
    ComeApart ("-" ++ (toString m).push sep).toList ((toString n).push sep).toList := by
  obtain ⟨d, ds, hds⟩ := List.exists_cons_of_ne_nil (Nat.toDigits_ne_nil (n := n) (b := 10))
  have hd : d.isDigit := Nat.isDigit_of_mem_toDigits (by decide) (by decide)
    (hds ▸ List.mem_cons_self)
  have hne : '-' ≠ d := by
    rintro rfl
    exact absurd hd (by decide)
  simpa [Nat.toList_repr, hds] using ComeApart.here hne

theorem integer (m n : Int) {sep : Char} (hsep : ¬sep.isDigit) :
    Tells (m = n) ((toString m).push sep) ((toString n).push sep) := by
  have hminus (k : Nat) : (toString (Int.negSucc k)).push sep =
      "-" ++ (toString (k + 1)).push sep := by
    rw [show toString (Int.negSucc k) = "-" ++ toString (k + 1) from rfl]
    simp only [String.push_eq_append, String.append_assoc]
  cases m with
  | ofNat m =>
    cases n with
    | ofNat n => exact (natural m n hsep).congr Int.ofNat_inj.symm
    | negSucc n =>
      refine ⟨fun heq => (by cases heq), fun _ => ?_⟩
      rw [hminus]
      exact (comeApart_sign (n + 1) m sep).symm
  | negSucc m =>
    cases n with
    | ofNat n =>
      refine ⟨fun heq => (by cases heq), fun _ => ?_⟩
      rw [hminus]
      exact comeApart_sign (m + 1) n sep
    | negSucc n =>
      rw [hminus, hminus]
      exact ((natural (m + 1) (n + 1) hsep).append_left "-").congr (by simp)

/-! ### Rows and records -/

/-- Texts in a row tell what each of them tells. -/
theorem intercalate {α : Type} (sep : String) {p : α → Prop} {f g : α → String}
    (ht : ∀ a, Tells (p a) (f a) (g a)) (as : List α) :
    Tells (∀ a ∈ as, p a) (sep.intercalate (as.map f)) (sep.intercalate (as.map g)) := by
  induction as with
  | nil => exact refl (fun _ ha => absurd ha List.not_mem_nil) _
  | cons a as ih =>
    cases as with
    | nil => simpa using ht a
    | cons b as =>
      simp only [List.map_cons, String.intercalate_cons_cons] at ih ⊢
      exact (((ht a).append_right sep).append ih).congr List.forall_mem_cons.symm

theorem bracketed {as bs : List String}
    (ht : Tells p (", ".intercalate as) (", ".intercalate bs)) :
    Tells p (Text.bracketed as) (Text.bracketed bs) :=
  (ht.append_left "[").append_right "]"

theorem row_cons (e : String × String) {es : List (String × String)} (hes : es ≠ []) :
    row (e :: es) = e.1 ++ ": " ++ e.2 ++ ", " ++ row es := by
  rw [row, row, List.map_cons, String.intercalate_cons_of_ne_nil (by simpa using hes)]

/-- What the last entries of a row tell, the row tells. -/
theorem row_behind (before : List (String × String)) {k l : String × String}
    {ks ls : List (String × String)} (ht : Tells p (row (k :: ks)) (row (l :: ls))) :
    Tells p (row (before ++ k :: ks)) (row (before ++ l :: ls)) := by
  induction before with
  | nil => exact ht
  | cons b before ih =>
    rw [List.cons_append, List.cons_append, row_cons b (by simp), row_cons b (by simp)]
    exact ih.append_left _

/-- What an entry of a row tells, the row tells. -/
theorem row_field (key : String) (after : List (String × String)) (ht : Tells p x y) :
    Tells p (row ((key, x) :: after)) (row ((key, y) :: after)) := by
  have hfield := ht.append_left (key ++ ": ")
  cases after with
  | nil => simpa [row] using hfield
  | cons e after =>
    rw [row_cons _ (List.cons_ne_nil e after), row_cons _ (List.cons_ne_nil e after)]
    exact (hfield.append_right ", ").append_right _

/-- A row tells a number in it that is not its last entry, since a comma ends that. -/
theorem row_number (key : String) (m n : Nat) {k l : String × String}
    {ks ls : List (String × String)} (ht : Tells q (row (k :: ks)) (row (l :: ls))) :
    Tells (m = n ∧ q) (row ((key, toString m) :: k :: ks))
      (row ((key, toString n) :: l :: ls)) := by
  have hcomma (n : Nat) : toString n ++ ", " = (toString n).push ',' ++ " " := by
    rw [String.push_eq_append, String.append_assoc]
    rfl
  have hnumber := ((@natural m n ',' (by decide)).append_right " ").append_left (key ++ ": ")
  rw [row_cons _ (List.cons_ne_nil k ks), row_cons _ (List.cons_ne_nil l ls)]
  simpa only [String.append_assoc, hcomma] using hnumber.append ht

/-- What the fields of a record tell, the record tells. -/
theorem record (name : String) {ks ls : List (String × String)} (ht : Tells p (row ks) (row ls)) :
    Tells p (Description.record name ks) (Description.record name ls) :=
  (ht.append_left _).append_right _

theorem shared (ht : Tells p x y) : Tells p (Description.shared x) (Description.shared y) :=
  record "RefCell" (row_field "value" [] ht)

/-! ### Tables -/

/-- The position of a block is told by what is said of it. -/
theorem blockPos (a b : BlockPos) : Tells (a = b) a.describe b.describe := by
  have hdescribe (p : BlockPos) : p.describe = "(" ++ ((toString p.x.toInt).push ',' ++ " " ++
      ((toString p.y.toInt).push ',' ++ " ") ++ (toString p.z.toInt).push ')') := by
    simp only [BlockPos.describe, Description.tuple, String.intercalate_cons_cons,
      String.intercalate_singleton, String.push_eq_append, String.append_assoc]
    rfl
  have hcomma (m n : Int) := (@integer m n ',' (by decide)).append_right " "
  rw [hdescribe, hdescribe]
  refine ((((hcomma _ _).append (hcomma _ _)).append
    (integer _ _ (by decide))).append_left "(").congr ?_
  rw [Int32.toInt_inj, Int32.toInt_inj, Int32.toInt_inj, BlockPos.mk.injEq, and_assoc]

/-- A row of entries begins with the key of the first one. -/
theorem exists_row_cons (e : String × String) (es : List (String × String)) :
    ∃ rest, row (e :: es) = e.1 ++ rest := by
  by_cases hes : es = []
  · exact ⟨": " ++ e.2, by simp [hes, row, String.append_assoc]⟩
  · exact ⟨": " ++ e.2 ++ ", " ++ row es, by rw [row_cons e hes]; simp only [String.append_assoc]⟩

/-- A table of entries that differ in their keys tells the order in which they come. -/
theorem mapping {α β : Type} {key : α → String} (value : β → String)
    (hkey : ∀ a b, Tells (a = b) (key a) (key b)) {es fs : List (α × β)} (hperm : es.Perm fs)
    (hnodup : (es.map Prod.fst).Nodup) :
    Tells (es = fs) (Description.mapping (es.map fun e => (key e.1, value e.2)))
      (Description.mapping (fs.map fun e => (key e.1, value e.2))) := by
  refine (append_left ?_ _).append_right _
  induction es generalizing fs with
  | nil =>
    obtain rfl := hperm.nil_eq
    exact .refl rfl _
  | cons e es ih =>
    cases fs with
    | nil => exact absurd hperm.eq_nil (List.cons_ne_nil e es)
    | cons f fs =>
      rw [List.map_cons, List.map_cons]
      by_cases hfirst : e.1 = f.1
      · -- There is only one entry for the key, so it comes first in both.
        have hmem : f ∈ e :: es := hperm.mem_iff.2 List.mem_cons_self
        obtain rfl : f = e := (List.mem_cons.1 hmem).resolve_right fun hf =>
          (List.nodup_cons.1 hnodup).1 (hfirst ▸ List.mem_map_of_mem hf)
        have hrest := hperm.cons_inv
        have ht := ih hrest (List.nodup_cons.1 hnodup).2
        by_cases hes : es = []
        · obtain rfl : fs = [] := (hes ▸ hrest).nil_eq.symm
          exact .of_eq (by rw [hes]) (by rw [hes])
        · have hfs : fs ≠ [] := fun hfs => hes (hfs ▸ hrest).eq_nil
          rw [row_cons _ (by simpa using hes), row_cons _ (by simpa using hfs)]
          exact (ht.append_left _).congr (by simp)
      · refine ⟨fun heq => absurd (congrArg Prod.fst (List.cons.inj heq).1) hfirst, fun _ => ?_⟩
        obtain ⟨rest, hr⟩ := exists_row_cons (key e.1, value e.2)
          (es.map fun e => (key e.1, value e.2))
        obtain ⟨rest', hr'⟩ := exists_row_cons (key f.1, value f.2)
          (fs.map fun e => (key e.1, value e.2))
        rw [hr, hr', String.toList_append, String.toList_append]
        exact ((hkey e.1 f.1).apart hfirst).append _ _

end Tells

end Chainwalk
