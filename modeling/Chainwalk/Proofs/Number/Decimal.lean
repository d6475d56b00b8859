import Mathlib
import Chainwalk.Number.Integer

/-!
# Whole numbers in decimal digits

A whole number is written as its decimal digits, after a minus sign if it is negative, and that is
read as the number again in every width that has room for it.

* `IntegerWidth.digits_eq_ok`: digits are read as the number that they stand for;
* `IntegerWidth.read_toString`: what is written is read as the number itself.
-/

namespace Chainwalk

/-! ## Digits -/

/-- More digits do not make a number smaller. -/
theorem le_ofDigitChars (cs : List Char) (n : Nat) : n ≤ Nat.ofDigitChars 10 cs n := by
  induction cs generalizing n with
  | nil => exact le_rfl
  | cons c cs ih =>
    rw [Nat.ofDigitChars_cons]
    have hrest := ih (10 * n + (c.toNat - '0'.toNat))
    omega

theorem isDigit_of_mem_repr {n : Nat} {c : Char} (hc : c ∈ n.repr.toList) : c.isDigit := by
  rw [Nat.toList_repr] at hc
  exact Nat.isDigit_of_mem_toDigits (by decide) le_rfl hc

theorem exists_repr_eq_cons (n : Nat) : ∃ c cs, n.repr.toList = c :: cs ∧ c.isDigit := by
  obtain ⟨c, cs, hcs⟩ := List.exists_cons_of_ne_nil (l := n.repr.toList) (by simp)
  exact ⟨c, cs, hcs, isDigit_of_mem_repr (hcs ▸ List.mem_cons_self)⟩

/-- A whole number is written with digits and the minus sign. -/
theorem isDigit_or_eq_of_mem_toString {n : Int} {c : Char} (hc : c ∈ (toString n).toList) :
    c.isDigit ∨ c = '-' := by
  rw [Int.toString_eq_repr] at hc
  cases n with
  | ofNat n => exact .inl (isDigit_of_mem_repr hc)
  | negSucc n =>
    simp only [Int.repr, String.toList_append, List.mem_append] at hc
    rcases hc with hc | hc
    · exact .inr (List.mem_singleton.1 hc)
    · exact .inl (isDigit_of_mem_repr hc)

theorem toList_toString_ne_nil (n : Int) : (toString n).toList ≠ [] := by
  rw [Int.toString_eq_repr]
  cases n with
  | ofNat n =>
    obtain ⟨c, cs, hcs, -⟩ := exists_repr_eq_cons n
    simp [Int.repr, hcs]
  | negSucc n => simp [Int.repr]

/-! ## Reading -/

namespace IntegerWidth

variable {w : IntegerWidth}

/-- Digits are read as the number that they stand for, unless it is out of bounds. -/
theorem digits_eq_ok {bound : Nat} (beyond : IntegerFault) {cs : List Char}
    (hcs : ∀ c ∈ cs, c.isDigit) {n : Nat} (hn : Nat.ofDigitChars 10 cs n ≤ bound) :
    digits bound beyond n cs = .ok (Nat.ofDigitChars 10 cs n) := by
  induction cs generalizing n with
  | nil => rfl
  | cons c cs ih =>
    have hc : digit? c = some (c.toNat - '0'.toNat) := if_pos (hcs c List.mem_cons_self)
    rw [Nat.ofDigitChars_cons] at hn ⊢
    -- What has been read so far is no more than the whole.
    have hsofar := (le_ofDigitChars cs _).trans hn
    rw [digits, hc]
    dsimp only
    rw [if_neg (not_lt.2 hsofar), ih (fun d hd => hcs d (List.mem_cons_of_mem _ hd)) hn]

theorem digits_repr {bound : Nat} (beyond : IntegerFault) {n : Nat} (hn : n ≤ bound) :
    digits bound beyond 0 n.repr.toList = .ok n := by
  have hvalue : Nat.ofDigitChars 10 n.repr.toList 0 = n := by
    rw [Nat.toList_repr, Nat.ofDigitChars_ten_toDigits]
  rw [digits_eq_ok beyond (fun c hc => isDigit_of_mem_repr hc) (hvalue.trans_le hn), hvalue]

/-- A text that begins with a digit has no sign. -/
theorem readChars_of_isDigit {c : Char} (hc : c.isDigit) (cs : List Char) :
    w.readChars (c :: cs) = Int.ofNat <$> digits w.greatest.toNat .tooLarge 0 (c :: cs) := by
  have hplus : c ≠ '+' := by
    rintro rfl
    cases hc
  have hminus : c ≠ '-' := by
    rintro rfl
    cases hc
  rw [readChars.eq_def]
  split <;> simp_all

theorem readChars_minus {cs : List Char} (hcs : cs ≠ []) (hw : w.least < 0) :
    w.readChars ('-' :: cs) =
      (fun n => -Int.ofNat n) <$> digits (-w.least).toNat .tooSmall 0 cs := by
  obtain ⟨c, cs, rfl⟩ := List.exists_cons_of_ne_nil hcs
  rw [readChars.eq_def]
  exact if_pos hw

/-- A whole number within the bounds of a width is read from what is written of it. -/
theorem read_toString {n : Int} (hl : w.least ≤ n) (hg : n ≤ w.greatest) :
    w.read (toString n) = .ok n := by
  rw [Int.toString_eq_repr, read]
  cases n with
  | ofNat n =>
    obtain ⟨c, cs, hcs, hc⟩ := exists_repr_eq_cons n
    have hbound : n ≤ w.greatest.toNat := by
      rw [Int.ofNat_eq_natCast] at hg
      omega
    rw [Int.repr, hcs, readChars_of_isDigit hc, ← hcs, digits_repr _ hbound]
    rfl
  | negSucc n =>
    have hbound : n + 1 ≤ (-w.least).toNat := by omega
    have hne : (n + 1).repr.toList ≠ [] := by simp
    have hsplit : (Int.negSucc n).repr.toList = '-' :: (n + 1).repr.toList := by simp [Int.repr]
    rw [hsplit, readChars_minus hne (by omega), digits_repr _ hbound]
    rfl

end IntegerWidth

end Chainwalk
