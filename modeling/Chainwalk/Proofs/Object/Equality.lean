import Chainwalk.Proofs.Conversion.RoundTrip
import Chainwalk.Proofs.Typing.Walk

/-!
# Equality of objects

The method `equals(Object)` of the root takes objects of some classes for equal if they have one
class and one text, and all others only if they are one. Which way it goes is told from the class of
the receiver alone, but objects of different classes are not equal either way, so it does not matter
which of two objects is asked. The texts that are compared do not depend on the realm, so what is
answered once is answered always.

* `Object.Equal`, `Object.equals_eq_true_iff`: which objects are equal;
* `Object.Equal.symm`, `Object.Equal.trans`: equality goes both ways and on;
* `Object.equal_scalar_iff`: plain values are equal if they are the same value;
* `Object.equals_equivalence`: what the method answers.
-/

namespace Chainwalk

/-- What is written of a plain value tells it, fractions apart. -/
theorem ScalarKind.text_injective {k : ScalarKind} (hfloat : k ≠ .float) (hdouble : k ≠ .double) :
    Function.Injective k.text := by
  intro x y htext
  by_cases hk : k ∈ whole
  · -- It is read as the value.
    have hread := read_text hk x
    rw [htext, read_text hk y] at hread
    exact (Except.ok.inj hread).symm
  · cases k with
    | char =>
      have hread := read_char_eq_ok_iff.2 htext
      rw [read_char_eq_ok_iff.2 rfl] at hread
      exact Except.ok.inj hread
    | string => exact htext
    | float => exact absurd rfl hfloat
    | double => exact absurd rfl hdouble
    | _ => exact absurd (by decide) hk

namespace Object

variable {h : Hierarchy} {realm : Realm} {a b c : Object}

/-! ## Equal objects -/

/-- Whether equal objects need not be one: if their class is that of strings, or one of plain values
    or of constants. -/
def ByValue (h : Hierarchy) (a : Object) : Prop :=
  (h.info a.class_).kind = .primitive ∨ (h.info a.class_).kind = .enumeration ∨ a.class_ = .string

/-- Objects that are one, or that have one class and one text and need not be one. -/
def Equal (h : Hierarchy) (a b : Object) : Prop :=
  a.same b ∨ a.ByValue h ∧ a.class_ = b.class_ ∧ ∀ realm, a.text h realm = b.text h realm

theorem same_iff : a.same b ↔ a.identity = b.identity := by
  rw [same, decide_eq_true_eq]

/-- Most classes of the library have no values that are equal without being one. -/
theorem not_byValue {k : Builtin} (hclass : a.class_ = .builtin k)
    (hk : k.info.kind ≠ .primitive ∧ k.info.kind ≠ .enumeration ∧ k ≠ .scalar .string) :
    ¬a.ByValue h := by
  obtain ⟨hprimitive, henumeration, hstring⟩ := hk
  rw [ByValue, hclass]
  rintro (hkind | hkind | hkind)
  · exact hprimitive hkind
  · exact henumeration hkind
  · exact hstring (Class.builtin.inj hkind)

theorem byValue_scalar (h : Hierarchy) (tag : Nat) (k : ScalarKind) (x : k.Carrier) :
    (value tag (.scalar k x)).ByValue h := by
  cases k with
  | string => exact .inr (.inr rfl)
  | _ => exact .inl rfl

/-- The text of what need not be one does not depend on the realm. -/
theorem ByValue.text_eq (ha : a.ByValue h) (realm realm' : Realm) :
    a.text h realm = a.text h realm' := by
  cases a with
  | value tag d =>
    cases d with
    | location l => exact absurd ha (not_byValue rfl (by decide))
    | block b => exact absurd ha (not_byValue rfl (by decide))
    | _ => rfl
  | _ => exact absurd ha (not_byValue rfl (by decide))

theorem ByValue.congr (ha : a.ByValue h) (hclass : a.class_ = b.class_) : b.ByValue h := by
  rw [ByValue, ← hclass]
  exact ha

/-- The method compares texts in the realm as it is, but any other would do. -/
theorem equals_eq_true_iff : a.equals h realm (some b) = true ↔ a.Equal h b := by
  have hvalue : a.equals h realm (some b) = true ↔
      a.same b ∨ a.ByValue h ∧ a.class_ = b.class_ ∧ a.text h realm = b.text h realm := by
    simp [equals, ByValue, and_assoc, or_assoc]
  rw [hvalue, Equal]
  refine or_congr_right (and_congr_right fun ha => and_congr_right fun hclass => ?_)
  refine ⟨fun htext realm' => ?_, fun htext => htext realm⟩
  rw [ha.text_eq realm' realm, (ha.congr hclass).text_eq realm' realm, htext]

namespace Equal

theorem refl (h : Hierarchy) (a : Object) : a.Equal h a := .inl (same_iff.2 rfl)

theorem symm (hab : a.Equal h b) : b.Equal h a := by
  rcases hab with hsame | ⟨ha, hclass, htext⟩
  · exact .inl (same_iff.2 (same_iff.1 hsame).symm)
  · exact .inr ⟨ha.congr hclass, hclass.symm, fun realm => (htext realm).symm⟩

/-- Equality goes on from object to object, if no two of them have one identity. -/
theorem trans {os : Set Object} (hos : os.InjOn identity) (ha : a ∈ os) (hb : b ∈ os) (hc : c ∈ os)
    (hab : a.Equal h b) (hbc : b.Equal h c) : a.Equal h c := by
  rcases hab with hsame | ⟨hvalue, hclass, htext⟩
  · obtain rfl := hos ha hb (same_iff.1 hsame)
    exact hbc
  rcases hbc with hsame | ⟨-, hclass', htext'⟩
  · obtain rfl := hos hb hc (same_iff.1 hsame)
    exact .inr ⟨hvalue, hclass, htext⟩
  · exact .inr ⟨hvalue, hclass.trans hclass', fun realm => (htext realm).trans (htext' realm)⟩

end Equal

/-- Plain values are equal if they are the same value, fractions apart. -/
theorem equal_scalar_iff {k : ScalarKind} (hfloat : k ≠ .float) (hdouble : k ≠ .double) {m n : Nat}
    {x y : k.Carrier} (hos : Set.InjOn identity {value m (.scalar k x), value n (.scalar k y)}) :
    (value m (.scalar k x)).Equal h (value n (.scalar k y)) ↔ x = y := by
  constructor
  · rintro (hsame | ⟨-, -, htext⟩)
    · have heq := hos (by simp) (by simp) (same_iff.1 hsame)
      cases heq
      rfl
    · exact ScalarKind.text_injective hfloat hdouble (htext .empty)
  · rintro rfl
    exact .inr ⟨byValue_scalar h m k x, rfl, fun _ => rfl⟩

theorem equal_iff_of_enumeration (ha : (h.info a.class_).kind = .enumeration) :
    a.Equal h b ↔
      a.class_ = b.class_ ∧ (∀ realm, a.text h realm = b.text h realm) ∨ a.same b := by
  have hvalue : a.ByValue h := .inr (.inl ha)
  rw [Equal, or_comm, and_iff_right hvalue]

theorem equal_iff_of_not_byValue (ha : ¬a.ByValue h) : a.Equal h b ↔ a.same b := by
  rw [Equal, or_iff_left fun hvalue => ha hvalue.1]

end Object

/-! ## The method -/

/-- The method that tells whether objects are equal. -/
def Method.equals : Method := objectMethods.get ⟨3, by decide⟩

namespace Object

variable {h : Hierarchy} {a b : Object} {v : Value}

/-- What an object answers when it is asked whether it equals a value, whenever it is asked. Nothing
    changes but that the answer has a tag of its own. -/
def Answers (h : Hierarchy) (a : Object) (v : Value) (answer : Bool) : Prop :=
  ∀ t : Store, Method.equals.invoke h a [v] t =
    (.ok (some (.value t.supply (.scalar .boolean answer))), { t with supply := t.supply + 1 })

theorem invoke_equals (h : Hierarchy) (a : Object) (v : Value) (t : Store) :
    Method.equals.invoke h a [v] t =
      (.ok (some (.value t.supply (.scalar .boolean (a.equals h t.realm v)))),
        { t with supply := t.supply + 1 }) := by
  have hfits : h.Fits .object v := fun _ _ => h.isA_object _
  have hobstacle : Method.equals.obstacle? h a [v] = none :=
    Method.obstacle?_eq_none_iff.2 ⟨h.isA_object _, .cons hfits .nil⟩
  rw [Method.invoke_eq, hobstacle]
  rfl

theorem answers_iff {answer : Bool} :
    a.Answers h v answer ↔ ∀ realm, a.equals h realm v = answer := by
  constructor
  · intro ha realm
    have heq := ha { Store.empty with realm }
    rw [invoke_equals] at heq
    cases heq
    rfl
  · intro ha t
    rw [invoke_equals, ha]

theorem answers_none (h : Hierarchy) (a : Object) : a.Answers h none false :=
  answers_iff.2 fun _ => rfl

/-- Objects answer whether they are equal. -/
theorem answers_some_iff {answer : Bool} :
    a.Answers h (some b) answer ↔ (answer = true ↔ a.Equal h b) := by
  have heach (realm : Realm) :
      a.equals h realm (some b) = answer ↔ (answer = true ↔ a.Equal h b) := by
    rw [← equals_eq_true_iff, ← Bool.eq_iff_iff, eq_comm]
  rw [answers_iff]
  exact ⟨fun ha => (heach .empty).1 (ha .empty), fun ha realm => (heach realm).2 ha⟩

/-- Every object answers, and always the same. -/
theorem existsUnique_answers (h : Hierarchy) (a : Object) (v : Value) :
    ∃! answer, a.Answers h v answer := by
  classical
  cases v with
  | none => exact ⟨false, answers_none h a, fun _ ha => (answers_iff.1 ha .empty).symm⟩
  | some b =>
    refine ⟨decide (a.Equal h b), answers_some_iff.2 decide_eq_true_iff, fun answer ha => ?_⟩
    rw [Bool.eq_iff_iff, decide_eq_true_iff, answers_some_iff.1 ha]

/-- The method `equals(Object)` of the root tells which objects are equal. Every object answers for
    every value, and always the same; none equals null. Equality is an equivalence among the objects
    `os` that there are at a time, of which no two have one identity, since what is made anew gets a
    tag that no other has. There plain values are equal exactly if they are the same value, fractions
    apart. Constants are equal if they have one class and one text or are one, and objects of all
    other classes only if they are one. -/
theorem equals_equivalence (h : Hierarchy) {os : Set Object} (hos : os.InjOn identity) :
    (∀ a v, ∃! answer, Answers h a v answer) ∧
    (∀ a, Answers h a none false) ∧
    (∀ a, Answers h a (some a) true) ∧
    (∀ a b answer, Answers h a (some b) answer ↔ Answers h b (some a) answer) ∧
    (∀ a ∈ os, ∀ b ∈ os, ∀ c ∈ os,
      Answers h a (some b) true → Answers h b (some c) true → Answers h a (some c) true) ∧
    (∀ k : ScalarKind, k ≠ .float → k ≠ .double → ∀ m n x y,
      value m (.scalar k x) ∈ os → value n (.scalar k y) ∈ os →
        (Answers h (value m (.scalar k x)) (some (value n (.scalar k y))) true ↔ x = y)) ∧
    (∀ a b, (h.info a.class_).kind = .enumeration →
      (Answers h a (some b) true ↔
        a.class_ = b.class_ ∧ (∀ realm, a.text h realm = b.text h realm) ∨ a.same b)) ∧
    ∀ a b, (h.info a.class_).kind ≠ .primitive → (h.info a.class_).kind ≠ .enumeration →
      a.class_ ≠ .string → (Answers h a (some b) true ↔ a.same b) := by
  simp only [answers_some_iff, true_iff]
  refine ⟨existsUnique_answers h, answers_none h, .refl h, fun a b answer => ?symm,
    fun a ha b hb c hc => .trans hos ha hb hc, fun k hfloat hdouble m n x y hx hy => ?scalar,
    fun a b => equal_iff_of_enumeration, fun a b hprimitive henumeration hstring => ?other⟩
  case symm => exact iff_congr Iff.rfl ⟨.symm, .symm⟩
  case scalar =>
    exact equal_scalar_iff hfloat hdouble (hos.mono (Set.pair_subset hx hy))
  case other =>
    refine equal_iff_of_not_byValue ?_
    rintro (hkind | hkind | hclass)
    · exact hprimitive hkind
    · exact henumeration hkind
    · exact hstring hclass

/-- Strings of one text are equal, although each was made anew, and so is the first one to the third
    if it is to the second and that to the third. Two blocks that are made alike are not equal. -/
theorem equals_equivalence_stones :
    let stone (tag : Nat) : Object := value tag (.scalar .string "stone")
    let here (tag : Nat) : Object := value tag (.block ⟨⟨0⟩, ⟨0, 64, 0⟩⟩)
    let dirt : Object := value 3 (.scalar .string "dirt")
    Answers .builtins (stone 0) (some (stone 1)) true ∧
    Answers .builtins (stone 0) (some (stone 2)) true ∧
    ¬Answers .builtins (stone 0) (some dirt) true ∧
    ¬Answers .builtins (here 4) (some (here 5)) true := by
  intro stone here dirt
  have hos : Set.InjOn identity {o | o ∈ [stone 0, stone 1, stone 2, dirt]} :=
    fun _ ho _ hp => List.inj_on_of_nodup_map (by decide) ho hp
  obtain ⟨-, -, -, -, htrans, hscalar, -, hother⟩ := equals_equivalence .builtins hos
  have hfirst : Answers .builtins (stone 0) (some (stone 1)) true :=
    (hscalar .string (by decide) (by decide) 0 1 _ _ (by simp [stone]) (by simp [stone])).2 rfl
  have hsecond : Answers .builtins (stone 1) (some (stone 2)) true :=
    (hscalar .string (by decide) (by decide) 1 2 _ _ (by simp [stone]) (by simp [stone])).2 rfl
  refine ⟨hfirst, htrans _ (by simp) _ (by simp) _ (by simp) hfirst hsecond, fun hdirt => ?_,
    fun hhere => ?_⟩
  · have htext := (hscalar .string (by decide) (by decide) 0 3 _ _ (by simp [stone])
      (by simp [dirt])).1 hdirt
    revert htext
    decide
  · have hsame := (hother (here 4) (here 5) (by decide) (by decide) (by decide)).1 hhere
    revert hsame
    decide

end Object

end Chainwalk
