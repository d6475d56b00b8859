import Chainwalk.Proofs.Conversion.RoundTrip
import Chainwalk.Proofs.Text.Spelling
import Chainwalk.Proofs.Typing.Conversion

/-!
# Constants by name

The constants of a class stand in a list by their places, and a literal of the class stands for the
first of them whose name it is, blanks at its ends and the case of ASCII letters apart. A constant
is written by its name. So what is written of it stands for the constant itself if no other one of
the class has that name up to case, in whatever case it is copied and with whatever blanks around
it.

* `Hierarchy.pairwise_ordinal_constants`: constants stand in the list by their places;
* `Hierarchy.FirstNamed`: the first constant of a name;
* `Registry.plain_instantiate_of_isA_enumeration`: reading in a class of constants;
* `Registry.formatObject_constant`: writing a constant;
* `Registry.instantiate_constants`: what literals stand for, and texts of constants among them.
-/

namespace Chainwalk

/-! ## The constants of a class -/

namespace Hierarchy

variable {h : Hierarchy} {c : Class}

/-- The constants of a class are listed by their places. -/
theorem pairwise_ordinal_constants (h : Hierarchy) (c : Class) :
    (h.constants c).Pairwise fun j k => j.ordinal < k.ordinal := by
  rw [constants.eq_def]
  split
  · decide
  · decide
  · decide
  · decide
  · exact .nil
  · rename_i n
    have hplaces := List.pairwise_lt_range' (s := 0) (n := (h.info (.defined n)).constants.length)
    rw [← List.zipIdx_map_snd, List.pairwise_map] at hplaces
    exact List.pairwise_map.2 hplaces

theorem eq_of_ordinal_eq {j k : Constant} (hj : j ∈ h.constants c) (hk : k ∈ h.constants c)
    (heq : j.ordinal = k.ordinal) : j = k := by
  have hnodup : ((h.constants c).map Constant.ordinal).Nodup :=
    List.pairwise_map.2 ((h.pairwise_ordinal_constants c).imp fun hlt => hlt.ne)
  exact List.inj_on_of_nodup_map hnodup hj hk heq

/-- The first constant of a class with a name, blanks around it and the case of ASCII letters
    apart. -/
structure FirstNamed (h : Hierarchy) (c : Class) (name : String) (k : Constant) : Prop where
  mem : k ∈ h.constants c
  named : Text.sameIgnoringCase k.name (Text.trim name)
  first : ∀ j ∈ h.constants c, Text.sameIgnoringCase j.name (Text.trim name) →
    k.ordinal ≤ j.ordinal

theorem constant?_eq_some_iff {name : String} {k : Constant} :
    h.constant? c name = some k ↔ h.FirstNamed c name k := by
  have hfirst {k : Constant} (hk : h.constant? c name = some k) : h.FirstNamed c name k := by
    obtain ⟨hnamed, before, after, hlist, hbefore⟩ := List.find?_eq_some_iff_append.1 hk
    have hmem : k ∈ h.constants c := List.mem_of_find?_eq_some hk
    refine ⟨hmem, hnamed, fun j hj hsame => ?_⟩
    have hordered := h.pairwise_ordinal_constants c
    rw [hlist] at hj hordered
    rcases List.mem_append.1 hj with hj | hj
    · exact absurd hsame (by simpa using hbefore j hj)
    rcases List.mem_cons.1 hj with rfl | hj
    · exact le_rfl
    · exact ((List.pairwise_cons.1 (List.pairwise_append.1 hordered).2.1).1 j hj).le
  refine ⟨hfirst, fun hk => ?_⟩
  -- A first one is found, and it is no other than this.
  have hsome : h.constant? c name ≠ none := by
    intro hnone
    exact List.find?_eq_none.1 hnone k hk.mem hk.named
  obtain ⟨j, hj⟩ := Option.ne_none_iff_exists'.1 hsome
  have hj' := hfirst hj
  rw [hj, eq_of_ordinal_eq hj'.mem hk.mem
    (le_antisymm (hj'.first k hk.mem hk.named) (hk.first j hj'.mem hj'.named))]

theorem constant?_eq_none_iff {name : String} :
    h.constant? c name = none ↔
      ∀ k ∈ h.constants c, ¬Text.sameIgnoringCase k.name (Text.trim name) :=
  List.find?_eq_none

/-- Where no two names are the same up to case, every spelling of a name stands for its constant. -/
theorem firstNamed_of_spells
    (htrim : ∀ k ∈ h.constants c, Text.trim k.name = k.name)
    (hapart : (h.constants c).Pairwise fun j k => ¬Text.sameIgnoringCase j.name k.name)
    {k : Constant} (hk : k ∈ h.constants c) {literal : String}
    (hspells : Text.Spells literal k.name) : h.FirstNamed c literal k := by
  have hname := Text.sameIgnoringCase_iff.1 (hspells.sameIgnoringCase_trim (htrim k hk))
  have hnodup : ((h.constants c).map fun k => Text.lowerAscii k.name).Nodup :=
    List.pairwise_map.2 (hapart.imp fun hne heq => hne (Text.sameIgnoringCase_iff.2 heq))
  refine ⟨hk, Text.sameIgnoringCase_iff.2 hname.symm, fun j hj hsame => ?_⟩
  have heq : j = k :=
    List.inj_on_of_nodup_map hnodup hj hk ((Text.sameIgnoringCase_iff.1 hsame).trans hname)
  rw [heq]

end Hierarchy

namespace Registry

variable {h : Hierarchy} {c : Class} {sender : Option Sender}

/-! ## Reading -/

/-- Classes of constants are read by the handler of all of them. -/
theorem inputFor?_plain_of_isA_enumeration (hc : h.isA c .enumeration) :
    plain.inputFor? h c = some enumerationInput := by
  have hpolymorphic : plain.polymorphic = [enumerationInput, collectionInput] := by cbv
  have hfirst : plain.polymorphic.find? (fun i => h.isA c i.relevant) = some enumerationInput := by
    rw [hpolymorphic]
    exact List.find?_cons_of_pos hc
  have hregistered : plain.registered? c = none ∨ plain.registered? c = some enumerationInput := by
    rcases c with b | n
    · -- Only the class of all constants has an entry of its own, for the same handler.
      rcases h.isA_builtins_iff.1 hc with rfl | hobject | habove
      · exact .inr (by cbv)
      · cases hobject
      · cases b <;> simp [Builtin.above] at habove <;> exact .inl (by cbv)
    · exact .inl (by cbv)
  rcases hregistered with hnone | hsome
  · rw [inputFor?, hnone, hfirst, Option.none_or]
  · exact inputFor?_of_registered? hsome

/-- What a literal of a class of constants stands for, if it does not stand for null. -/
theorem plain_instantiate_of_isA_enumeration (hc : h.isA c .enumeration) {literal : String}
    (hliteral : literal ≠ nullToken) (s : Store) :
    plain.instantiate h sender c literal s =
      match h.constant? c literal with
      | some k => .ok (some (.value s.supply (.constant k)), { s with supply := s.supply + 1 })
      | none => .error ⟨unreadable h literal c
          ("expected one of " ++ ", ".intercalate ((h.constants c).map Constant.name))⟩ := by
  have heq := @shipped_attempt_eq none h sender c literal
  rw [if_neg hliteral, shipped, inputFor?_plain_of_isA_enumeration hc] at heq
  rw [instantiate, heq]
  dsimp only
  rw [answer_adapt_wrap]
  dsimp only [enumerationInput]
  rcases h.constant? c literal with _ | k <;> rfl

/-! ## Writing -/

/-- A constant is written by its name. -/
theorem formatObject_constant {realm : Realm} {k : Constant} (hk : h.isA k.class_ .enumeration)
    (tag : Nat) : plain.formatObject h realm (.value tag (.constant k)) = k.name := by
  obtain ⟨o, hout, ho⟩ : ∃ o, plain.outputFor? h k.class_ = some o ∧
      (o = enumerationOutput ∨ ∃ j, o = arrayOutput j) := by
    rw [outputFor?, outputs_plain, List.find?_append]
    rcases harray : (ScalarKind.all.map arrayOutput).find? fun o => h.isA k.class_ o.relevant
      with _ | o
    · rw [harray, Option.none_or]
      exact ⟨enumerationOutput, List.find?_cons_of_pos hk, .inl rfl⟩
    · rw [harray, Option.some_or]
      obtain ⟨j, -, hj⟩ := List.mem_map.1 (List.mem_of_find?_eq_some harray)
      exact ⟨o, rfl, .inr ⟨j, hj.symm⟩⟩
  have hclass : (Object.value tag (.constant k)).class_ = k.class_ := rfl
  rw [formatObject, hclass, hout]
  rcases ho with rfl | ⟨j, rfl⟩
  · rfl
  · -- A class of constants may also lie below a class of arrays, but its constants are no arrays.
    have hview : (Object.value tag (.constant k)).view? h (.array j) = none := by
      cases k <;> simp [Object.view?, Constant.class_]
    simp only [arrayOutput, hview]
    rfl

/-! ## Texts of constants -/

/-- A literal of a class of constants, if it does not stand for null, is read as the first constant
    with its name, and otherwise refused. If the names of the constants have no blanks at their ends
    and no two are the same up to case, then every spelling of what is written of a constant is read
    as this constant. -/
theorem instantiate_constants (sender : Option Sender) (hc : h.isA c .enumeration) (s : Store) :
    (∀ literal, literal ≠ nullToken →
      (∀ k, h.FirstNamed c literal k → plain.instantiate h sender c literal s =
        .ok (some (.value s.supply (.constant k)), { s with supply := s.supply + 1 })) ∧
      ((∃ k, h.FirstNamed c literal k) ∨
        (∀ k ∈ h.constants c, ¬Text.sameIgnoringCase k.name (Text.trim literal)) ∧
          plain.instantiate h sender c literal s = .error ⟨.unreadable literal (h.name c)
            ("expected one of " ++ ", ".intercalate ((h.constants c).map Constant.name))⟩)) ∧
    ((∀ k ∈ h.constants c, Text.trim k.name = k.name) →
      ((h.constants c).Pairwise fun j k => ¬Text.sameIgnoringCase j.name k.name) →
      ∀ k ∈ h.constants c, ∀ tag realm literal,
        Text.Spells literal (plain.formatObject h realm (.value tag (.constant k))) →
        literal ≠ nullToken →
        plain.instantiate h sender c literal s =
          .ok (some (.value s.supply (.constant k)), { s with supply := s.supply + 1 })) := by
  have hread {literal : String} (hliteral : literal ≠ nullToken) {k : Constant}
      (hk : h.FirstNamed c literal k) : plain.instantiate h sender c literal s =
        .ok (some (.value s.supply (.constant k)), { s with supply := s.supply + 1 }) := by
    rw [plain_instantiate_of_isA_enumeration hc hliteral, Hierarchy.constant?_eq_some_iff.2 hk]
  refine ⟨fun literal hliteral => ⟨fun k => hread hliteral, ?_⟩,
    fun htrim hapart k hk tag realm literal hspells hliteral => ?_⟩
  · rcases hfound : h.constant? c literal with _ | k
    · refine .inr ⟨Hierarchy.constant?_eq_none_iff.1 hfound, ?_⟩
      rw [plain_instantiate_of_isA_enumeration hc hliteral, hfound]
      rfl
    · exact .inl ⟨k, Hierarchy.constant?_eq_some_iff.1 hfound⟩
  · rw [formatObject_constant (Hierarchy.class_of_mem_constants hk ▸ hc)] at hspells
    exact hread hliteral (Hierarchy.firstNamed_of_spells htrim hapart hk hspells)

/-- In a class with two constants of one name up to case, the first of them is read; in one without
    such, a constant is read from its name in any case. -/
theorem instantiate_constants_suits :
    let h : Hierarchy := ⟨#[.extending [.enumeration]
      (.ofConstants "Suit" "cards::Suit" ["HEARTS", "SPADES"]), .extending [.enumeration]
      (.ofConstants "Sign" "cards::Sign" ["clubs", "Hearts", "HEARTS"])], by decide⟩
    h.isA (.defined 0) .enumeration ∧ h.isA (.defined 1) .enumeration ∧
    plain.instantiate h none (.defined 1) " HEARTS" .empty =
      .ok (some (.value 0 (.constant (.defined 1 1 "Hearts"))), { Store.empty with supply := 1 }) ∧
    plain.formatObject h .empty (.value 7 (.constant (.defined 0 1 "SPADES"))) = "SPADES" ∧
    plain.instantiate h none (.defined 0) "\tSpades " .empty =
      .ok (some (.value 0 (.constant (.defined 0 1 "SPADES"))),
        { Store.empty with supply := 1 }) := by
  intro h
  have hsuit : h.isA (.defined 0) .enumeration := by cbv
  have hsign : h.isA (.defined 1) .enumeration := by cbv
  have hformat : plain.formatObject h .empty (.value 7 (.constant (.defined 0 1 "SPADES"))) =
      "SPADES" := formatObject_constant hsuit 7
  refine ⟨hsuit, hsign, ?_, hformat, ?_⟩
  · refine ((instantiate_constants none hsign .empty).1 " HEARTS" (by decide)).1
      (.defined 1 1 "Hearts") ⟨?_, ?_, ?_⟩
    all_goals decide
  · refine (instantiate_constants none hsuit .empty).2 ?_ ?_ (.defined 0 1 "SPADES") ?_ 7 .empty
      "\tSpades " ?_ (by decide)
    · decide
    · decide
    · decide
    · rw [hformat]
      exact ⟨"\t", "Spades", " ", by simp [Text.isBlank], by simp [Text.isBlank], by decide,
        by decide⟩

end Registry

end Chainwalk
