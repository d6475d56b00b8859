import Chainwalk.Proofs.Method.Resolution

/-!
# Declared order

Whether linearizations have the supertypes of all classes as they are declared, and what it means
for indices if they do not. A class that declares one supertype before another means the first one
to prevail where both declare a signature, and in its own index it does. A class below it may reach
the first one again on another way, after the second one, and in the index of this class the second
one prevails, although there is an ordering of all that lies above it in which no class has its
supertypes the other way round.

* `Hierarchy.Flips`: a class has, of two declarations, the one that a class above it has not;
* `Hierarchy.flips_iff`: it has exactly if the linearizations disagree about the two;
* `Hierarchy.declaredOrder_iff_followed`: when linearizations are in declared order throughout;
* `Hierarchy.declaredOrder_iff_followed_shortcut`: a class for which they could be, and are not.
-/

namespace Chainwalk

open MethodIndex

/-! ## Tables in which methods name their class -/

namespace ClassTable

variable {t : ClassTable} {c d : Class} {signature : String} {m : Method}

/-- A method names the owner of its signature. -/
theorem owner?_of_get? (ht : ∀ d, ∀ m ∈ t.declared d, m.declaring = d)
    (hm : (build t c).get? signature = some m) : t.owner? c signature = some m.declaring := by
  rw [get?_build] at hm
  obtain ⟨d, hd, hlast⟩ := Option.bind_eq_some_iff.1 hm
  have hmem := (List.mem_filter.1 (List.mem_of_getLast? hlast)).1
  rw [hd, ht d m hmem]

theorem exists_get?_of_owner? (ht : ∀ d, ∀ m ∈ t.declared d, m.declaring = d)
    (hd : t.owner? c signature = some d) :
    ∃ m, (build t c).get? signature = some m ∧ m.declaring = d := by
  obtain ⟨m, hm⟩ := Option.isSome_iff_exists.1 (isSome_lastDeclared?_iff.2 (declares_of_owner? hd))
  have hget : (build t c).get? signature = some m := by
    rw [get?_build, hd]
    exact hm
  have howner := owner?_of_get? ht hget
  exact ⟨m, hget, Option.some.inj (howner.symm.trans hd)⟩

end ClassTable

/-- A method without parameters that does nothing, declared by a class. -/
def Method.marker (d : Class) : Method := ⟨"mark", d, [], none, .exported, fun _ _ _ => pure none⟩

/-- The table in which some classes declare a method of one signature, and nothing else is
    declared. -/
def ClassTable.marking (h : Hierarchy) (owners : List Class) : ClassTable :=
  ⟨h, fun d => if d ∈ owners then [.marker d] else []⟩

namespace ClassTable

variable {h : Hierarchy} {owners : List Class} {d : Class}

theorem mem_declared_marking_iff {m : Method} :
    m ∈ (marking h owners).declared d ↔ d ∈ owners ∧ m = .marker d := by
  have hdeclared : (marking h owners).declared d = if d ∈ owners then [.marker d] else [] := rfl
  rw [hdeclared]
  by_cases hd : d ∈ owners
  · rw [if_pos hd, List.mem_singleton, and_iff_right hd]
  · rw [if_neg hd]
    exact ⟨fun hm => absurd hm List.not_mem_nil, fun hm => absurd hm.1 hd⟩

theorem declaring_marking : ∀ d, ∀ m ∈ (marking h owners).declared d, m.declaring = d := by
  intro d m hm
  rw [(mem_declared_marking_iff.1 hm).2, Method.marker]

theorem declares_marking_iff :
    (marking h owners).Declares d ((Method.marker .object).signature h) ↔ d ∈ owners := by
  rw [Declares]
  constructor
  · rintro ⟨m, hm, -⟩
    exact (mem_declared_marking_iff.1 hm).1
  · exact fun hd => ⟨.marker d, mem_declared_marking_iff.2 ⟨hd, rfl⟩, rfl⟩

end ClassTable

namespace Hierarchy

variable (h : Hierarchy)

/-! ## Flips -/

/-- Whether methods can be declared, each naming its class, such that of two classes that both
    declare a signature the index of `x` has the method of `s`, and the index of `c` has the method
    of `t`. -/
def Flips (x c s t : Class) : Prop :=
  ∃ (declared : Class → List Method) (signature : String) (m m' : Method),
    (∀ d, ∀ m ∈ declared d, m.declaring = d) ∧
    (⟨h, declared⟩ : ClassTable).Declares s signature ∧
    (⟨h, declared⟩ : ClassTable).Declares t signature ∧
    (build ⟨h, declared⟩ x).get? signature = some m ∧ m.declaring = s ∧
    (build ⟨h, declared⟩ c).get? signature = some m' ∧ m'.declaring = t

variable {h} {c x s t : Class}

/-- Of two classes that both declare a signature, that prevails which stands first in the
    linearization. -/
theorem owner?_marking_eq (hs : h.isA c s) (hst : [s, t].Sublist (h.linearization c))
    {owners : List Class} (howners : ∀ d, d ∈ owners ↔ d = s ∨ d = t) :
    (ClassTable.marking h owners).owner? c ((Method.marker .object).signature h) = some s := by
  rw [ClassTable.owner?_eq_some_iff]
  simp only [ClassTable.declares_marking_iff, howners]
  refine ⟨hs, .inl trivial, ?_⟩
  rintro e - (rfl | rfl) hne
  · exact absurd rfl hne
  · exact hst

theorem flips_iff (hxs : h.isA x s) (hxt : h.isA x t) (hcs : h.isA c s) (hct : h.isA c t)
    (hne : s ≠ t) :
    h.Flips x c s t ↔
      [s, t].Sublist (h.linearization x) ∧ [t, s].Sublist (h.linearization c) := by
  constructor
  · rintro ⟨declared, signature, m, m', hdeclared, hs, ht, hm, rfl, hm', rfl⟩
    have hx := ClassTable.owner?_of_get? (t := ⟨h, declared⟩) hdeclared hm
    have hc := ClassTable.owner?_of_get? (t := ⟨h, declared⟩) hdeclared hm'
    exact ⟨ClassTable.pair_sublist_of_owner? hx hxt ht hne.symm,
      ClassTable.pair_sublist_of_owner? hc hcs hs hne⟩
  · rintro ⟨hx, hc⟩
    have hdeclaring : ∀ d, ∀ m ∈ (ClassTable.marking h [s, t]).declared d, m.declaring = d :=
      ClassTable.declaring_marking
    have howners (d : Class) : d ∈ [s, t] ↔ d = s ∨ d = t := by simp
    have hxs := owner?_marking_eq hxs hx howners
    have hct := owner?_marking_eq hct hc fun d => (howners d).trans or_comm
    obtain ⟨m, hm, hms⟩ := ClassTable.exists_get?_of_owner? hdeclaring hxs
    obtain ⟨m', hm', hmt⟩ := ClassTable.exists_get?_of_owner? hdeclaring hct
    exact ⟨_, _, m, m', hdeclaring, ClassTable.declares_of_owner? hxs,
      ClassTable.declares_of_owner? hct, hm, hms, hm', hmt⟩

/-! ## Linearizations in declared order -/

/-- The linearization of a class is in declared order throughout exactly if no supertype of a class
    in it is mentioned again after all mentions of one that is declared after it. If there is any
    ordering that is, then each class has the method of the earlier supertype where both declare a
    signature, and the class below has that of the later one exactly for those pairs. -/
theorem declaredOrder_iff_followed (h : Hierarchy) (c : Class) :
    (h.InDeclaredOrder c (h.linearization c) ↔
      ∀ x, h.isA c x → (h.supers x).Pairwise fun s t =>
        s ≠ t → Followed (h.mentions c) s t) ∧
    ∀ l, h.InDeclaredOrder c l → ∀ x, h.isA c x → (h.supers x).Pairwise fun s t =>
      s ≠ t → [s, t].Sublist (h.linearization x) ∧
        (h.Flips x c s t ↔ ¬Followed (h.mentions c) s t) := by
  refine ⟨h.inDeclaredOrder_linearization_iff c, fun l hl x hx => ?_⟩
  refine List.pairwise_iff_forall_sublist.2 fun {s t} hst hne => ?_
  have hxs := h.isA_of_mem_supers (hst.subset List.mem_cons_self) (h.isA_self s)
  have hxt := h.isA_of_mem_supers (hst.subset (List.mem_cons_of_mem _ List.mem_cons_self))
    (h.isA_self t)
  have hcs := h.isA_trans hx hxs
  have hct := h.isA_trans hx hxt
  have hown := hl.pair_sublist_linearization hx hst hne
  refine ⟨hown, ?_⟩
  rw [flips_iff hxs hxt hcs hct hne, and_iff_right hown, ← h.pair_sublist_linearization_iff hcs]
  constructor
  · exact fun hts hst => hne (eq_of_pair_sublist (h.nodup_linearization c) hst hts)
  · exact (pair_sublist_or (h.mem_linearization_iff.2 hcs) (h.mem_linearization_iff.2 hct)
      hne).resolve_left

/-- Two classes, one that has both as supertypes, and one that has this one and the first of the two
    as supertypes. -/
def shortcut : Hierarchy :=
  ⟨#[.interface "First" "test::First", .interface "Second" "test::Second",
    .extending [.defined 0, .defined 1] (.interface "Both" "test::Both"),
    .extending [.defined 2, .defined 0] (.concrete "Shortcut" "test::Shortcut")], by decide⟩

theorem inDeclaredOrder_shortcut : shortcut.InDeclaredOrder (.defined 3)
    [.defined 3, .defined 2, .defined 0, .defined 1, .object] := by
  have hlast : shortcut.linearization (.defined 3) =
      [.defined 3, .defined 2, .defined 1, .defined 0, .object] := by cbv
  have hboth : shortcut.linearization (.defined 2) =
      [.defined 2, .defined 0, .defined 1, .object] := by cbv
  have hfirst : shortcut.linearization (.defined 0) = [.defined 0, .object] := by cbv
  have hsecond : shortcut.linearization (.defined 1) = [.defined 1, .object] := by cbv
  refine ⟨fun d => ?_, by decide, ?_, ?_⟩
  · rw [← mem_linearization_iff, hlast]
    simp only [List.mem_cons]
    tauto
  · simp only [← mem_linearization_iff, List.pairwise_cons, List.forall_mem_cons, hboth, hfirst,
      hsecond, linearization_object]
    decide
  · decide

/-- There is an ordering in declared order throughout, but the linearization is not, and the last
    class has the methods of the second one where the third has those of the first. -/
theorem declaredOrder_iff_followed_shortcut :
    shortcut.InDeclaredOrder (.defined 3)
      [.defined 3, .defined 2, .defined 0, .defined 1, .object] ∧
    ¬shortcut.InDeclaredOrder (.defined 3) (shortcut.linearization (.defined 3)) ∧
    shortcut.Flips (.defined 2) (.defined 3) (.defined 0) (.defined 1) := by
  have habove : shortcut.isA (.defined 3) (.defined 2) := by cbv
  have hmentions : shortcut.mentions (.defined 3) =
      [.defined 3, .defined 2, .defined 0, .defined 1, .defined 0, .object] := by cbv
  have hagain : ¬Followed (shortcut.mentions (.defined 3)) (.defined 0) (.defined 1) := by
    intro hfollowed
    have hlast : [Class.defined 0, .object] <:+ shortcut.mentions (.defined 3) := by
      rw [hmentions]
      decide
    exact absurd (hfollowed [.object] hlast) (by decide)
  have hpair : [Class.defined 0, .defined 1].Sublist (shortcut.supers (.defined 2)) := by decide
  obtain ⟨hordered, hflips⟩ := shortcut.declaredOrder_iff_followed (.defined 3)
  refine ⟨inDeclaredOrder_shortcut, fun hl => ?_, ?_⟩
  · exact hagain (List.pairwise_iff_forall_sublist.1 (hordered.1 hl _ habove) hpair (by decide))
  · have hboth := hflips _ inDeclaredOrder_shortcut _ habove
    exact (List.pairwise_iff_forall_sublist.1 hboth hpair (by decide)).2.2 hagain

end Hierarchy

end Chainwalk
