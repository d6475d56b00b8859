import Chainwalk.Proofs.Class.Unfolding
import Chainwalk.Proofs.Method.Signatures

/-!
# Which declaration counts

A signature may be declared by several classes above a class, and several times by one of them. In
the index of the class stands the last declaration of the *owner* of the signature, the first class
of the linearization that declares it. Because a linearization has every class before all that lie
above it, no class below the owner declares the signature too.

* `ClassTable.Declares`, `ClassTable.lastDeclared?`, `ClassTable.owner?`: who declares a signature;
* `MethodIndex.get?_build`: what is found in the index of a class;
* `ClassTable.owner?_eq_some_iff`: the owner stands before all others that declare the signature;
* `MethodIndex.resolution`: what is in the index of a class, whose declaration it is, and how many
  signatures there are.
-/

namespace Chainwalk

namespace ClassTable

variable (t : ClassTable)

/-- Whether a class itself declares a method of the signature. -/
def Declares (d : Class) (signature : String) : Prop :=
  ∃ m ∈ t.declared d, m.signature t.hierarchy = signature

instance (d : Class) (signature : String) : Decidable (t.Declares d signature) :=
  inferInstanceAs (Decidable (∃ m ∈ t.declared d, m.signature t.hierarchy = signature))

/-- The last method of the signature that a class itself declares. -/
def lastDeclared? (d : Class) (signature : String) : Option Method :=
  ((t.declared d).filter fun m => m.signature t.hierarchy = signature).getLast?

/-- The first class of the linearization that declares the signature. -/
def owner? (c : Class) (signature : String) : Option Class :=
  (t.hierarchy.linearization c).find? (t.Declares · signature)

variable {t} {c d : Class} {signature : String}

theorem isSome_lastDeclared?_iff :
    (t.lastDeclared? d signature).isSome ↔ t.Declares d signature := by
  rw [lastDeclared?, List.getLast?_isSome, ne_eq, List.filter_eq_nil_iff, Declares]
  simp

theorem isA_of_owner? (hd : t.owner? c signature = some d) : t.hierarchy.isA c d :=
  t.hierarchy.mem_linearization_iff.1 (List.mem_of_find?_eq_some hd)

theorem declares_of_owner? (hd : t.owner? c signature = some d) : t.Declares d signature := by
  have := List.find?_some hd
  exact of_decide_eq_true this

/-- The owner of a signature stands before all others that declare it. -/
theorem pair_sublist_of_owner? (hd : t.owner? c signature = some d) {e : Class}
    (he : t.hierarchy.isA c e) (hdeclares : t.Declares e signature) (hne : e ≠ d) :
    [d, e].Sublist (t.hierarchy.linearization c) := by
  obtain ⟨-, before, after, hsplit, hbefore⟩ := List.find?_eq_some_iff_append.1 hd
  have hmem := t.hierarchy.mem_linearization_iff.2 he
  rw [hsplit] at hmem ⊢
  have hafter : e ∈ after := by
    rcases List.mem_append.1 hmem with hmem | hmem
    · have := hbefore e hmem
      simp [hdeclares] at this
    · exact (List.mem_cons.1 hmem).resolve_left hne
  exact ((List.singleton_sublist.2 hafter).cons_cons d).trans (List.sublist_append_right _ _)

theorem owner?_eq_some_iff :
    t.owner? c signature = some d ↔ t.hierarchy.isA c d ∧ t.Declares d signature ∧
      ∀ e, t.hierarchy.isA c e → t.Declares e signature → e ≠ d →
        [d, e].Sublist (t.hierarchy.linearization c) := by
  refine ⟨fun hd => ⟨isA_of_owner? hd, declares_of_owner? hd, fun e => pair_sublist_of_owner? hd⟩,
    fun ⟨hd, hdeclares, hfirst⟩ => ?_⟩
  rcases howner : t.owner? c signature with _ | e
  · have := List.find?_eq_none.1 howner d (t.hierarchy.mem_linearization_iff.2 hd)
    simp [hdeclares] at this
  · -- Unless the two are the same, each of them stands before the other.
    by_contra hne
    have hne : e ≠ d := fun heq => hne (congrArg some heq)
    exact hne (eq_of_pair_sublist (t.hierarchy.nodup_linearization c)
      (pair_sublist_of_owner? howner hd hdeclares hne.symm)
      (hfirst e (isA_of_owner? howner) (declares_of_owner? howner) hne))

/-- No class on the way to the owner of a signature declares it. -/
theorem not_declares_of_isA_owner? (hd : t.owner? c signature = some d) {e : Class}
    (hce : t.hierarchy.isA c e) (hed : t.hierarchy.isA e d) (hne : e ≠ d) :
    ¬t.Declares e signature := fun hdeclares =>
  List.pairwise_iff_forall_sublist.1 (t.hierarchy.pairwise_linearization c)
    (pair_sublist_of_owner? hd hce hdeclares hne) hed

end ClassTable

namespace MethodIndex

variable {t : ClassTable} {c : Class} {signature : String}

/-! ## What is found -/

/-- Taking out the entries of one signature leaves those of another. -/
theorem lookup_filter_ne {x : String} (hx : signature ≠ x) (entries : List (String × Method)) :
    (entries.filter fun e => e.1 ≠ x).lookup signature = entries.lookup signature := by
  induction entries with
  | nil => rfl
  | cons e entries ih =>
    rw [List.filter_cons]
    by_cases he : e.1 = x
    · have hne : signature ≠ e.1 := fun heq => hx (heq.trans he)
      rw [if_neg (by simp [he]), ih, List.lookup_cons, beq_false_of_ne hne]
    · rw [if_pos (by simp [he]), List.lookup_cons, List.lookup_cons, ih]

theorem lookup_insert (entries : List (String × Method)) (m : Method) (x : String) :
    (insert entries x m).lookup signature =
      if signature = x then some m else entries.lookup signature := by
  rw [insert, List.lookup_cons]
  by_cases hx : signature = x
  · simp [hx]
  · rw [beq_false_of_ne hx, if_neg hx]
    exact lookup_filter_ne hx entries

/-- After putting in methods one after another, the last one of a signature is found. -/
theorem lookup_foldl_insert (h : Hierarchy) (methods : List Method)
    (entries : List (String × Method)) :
    (methods.foldl (fun entries m => insert entries (m.signature h) m) entries).lookup signature =
      ((methods.filter fun m => m.signature h = signature).getLast?).or
        (entries.lookup signature) := by
  induction methods generalizing entries with
  | nil => simp
  | cons m methods ih =>
    rw [List.foldl_cons, ih, lookup_insert, List.filter_cons]
    by_cases hm : m.signature h = signature
    · rw [if_pos hm.symm, if_pos (decide_eq_true hm), List.getLast?_cons]
      cases (methods.filter fun m => m.signature h = signature).getLast? <;> rfl
    · rw [if_neg (Ne.symm hm), if_neg (by simpa using hm)]

theorem findSome?_eq_bind_find? {α β : Type} {f : α → Option β} {p : α → Bool}
    (hp : ∀ a, p a = (f a).isSome) (l : List α) : l.findSome? f = (l.find? p).bind f := by
  induction l with
  | nil => rfl
  | cons a l ih =>
    rw [List.findSome?_cons, List.find?_cons, hp]
    cases hf : f a with
    | none => simpa using ih
    | some b => simp [hf]

/-- In the index of a class stands the last declaration of the owner. -/
theorem get?_build (t : ClassTable) (c : Class) (signature : String) :
    (build t c).get? signature = (t.owner? c signature).bind (t.lastDeclared? · signature) := by
  have hdeclares (d) : decide (t.Declares d signature) = (t.lastDeclared? d signature).isSome :=
    Bool.eq_iff_iff.2 (decide_eq_true_iff.trans ClassTable.isSome_lastDeclared?_iff.symm)
  rw [ClassTable.owner?, ← findSome?_eq_bind_find? hdeclares, get?, build, lookup_foldl_insert,
    List.filter_flatMap, List.getLast?_flatMap, List.reverse_reverse, List.lookup_nil,
    Option.or_none]
  rfl

theorem coe_toFinset_keys_build (t : ClassTable) (c : Class) :
    (((build t c).entries.map Prod.fst).toFinset : Set String) =
      {s | ∃ d, t.hierarchy.isA c d ∧ t.Declares d s} := by
  ext s
  rw [Finset.mem_coe, List.mem_toFinset]
  exact List.mem_mergeSort.symm.trans (mem_signatures_build_iff t c)

/-! ## Resolution -/

/-- A signature is in the index of a class exactly if a class above it declares the signature. What
    stands there is the last declaration in the table of the owner, that is the first class of the
    linearization to declare it, and no other class on the way from the class to the owner does.
    There are as many entries as signatures that are declared above the class. -/
theorem resolution (t : ClassTable) (c : Class) (signature : String) :
    (((build t c).get? signature).isSome ↔
      ∃ d, t.hierarchy.isA c d ∧ t.Declares d signature) ∧
    (∀ m, (build t c).get? signature = some m ↔
      ∃ d, t.owner? c signature = some d ∧ t.lastDeclared? d signature = some m) ∧
    (∀ d, t.owner? c signature = some d → ∀ e, t.hierarchy.isA c e → t.hierarchy.isA e d →
      e ≠ d → ¬t.Declares e signature) ∧
    {s | ∃ d, t.hierarchy.isA c d ∧ t.Declares d s}.encard = (build t c).size := by
  refine ⟨?contains, fun m => ?entry, fun d hd e hce hed hne => ?owner, ?size⟩
  case contains =>
    rw [isSome_get?_iff, mem_signatures_build_iff]
    rfl
  case entry => rw [get?_build, Option.bind_eq_some_iff]
  case owner => exact ClassTable.not_declares_of_isA_owner? hd hce hed hne
  case size =>
    rw [← coe_toFinset_keys_build, Set.encard_coe_eq_coe_finsetCard,
      List.toFinset_card_of_nodup (nodup_keys_build t c), List.length_map, size]

end MethodIndex

end Chainwalk
