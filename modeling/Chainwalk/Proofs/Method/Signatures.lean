import Chainwalk.Proofs.Chain.Calls
import Chainwalk.Proofs.Class.Linearization

/-!
# Signatures

The index of a class is made by putting in methods one after another, each in the place of an
earlier one of its signature, so every signature stands there once. These are the signatures that
the classes above declare, whichever of their methods is the one that counts. They are listed in
order, and what is listed is what a chain may begin with: any other token is unknown.

* `MethodIndex.mem_signatures_build_iff`: the signatures of a class are those declared above it;
* `MethodIndex.pairwise_signatures_build`: they are listed in order, each once;
* `MethodIndex.startingWith_eq_filter`: those with a common start, whatever the case of letters;
* `Engine.isUnknown_run_singleton_iff`: which tokens are unknown.
-/

namespace Chainwalk

/-! ## Starts of texts -/

namespace Text

/-- Whether a text begins with another one, up to the case of ASCII letters. -/
def StartsWith (start s : String) : Prop := ∃ a b, s = a ++ b ∧ sameIgnoringCase a start

theorem startsWith_iff {start s : String} :
    StartsWith start s ↔ (lowerAscii start).toList.isPrefixOf (lowerAscii s).toList := by
  rw [List.isPrefixOf_iff_prefix, lowerAscii, lowerAscii, String.toList_ofList,
    String.toList_ofList]
  constructor
  · rintro ⟨a, b, rfl, hsame⟩
    rw [sameIgnoringCase, beq_iff_eq] at hsame
    rw [String.toList_append, List.map_append, hsame]
    exact List.prefix_append _ _
  · rintro ⟨rest, hrest⟩
    obtain ⟨a, b, hs, ha, -⟩ := List.map_eq_append_iff.1 hrest.symm
    refine ⟨String.ofList a, String.ofList b, ?_, ?_⟩
    · rw [← String.toList_inj, hs, String.toList_append, String.toList_ofList,
        String.toList_ofList]
    · rw [sameIgnoringCase, String.toList_ofList, ha, beq_self_eq_true]

instance (start s : String) : Decidable (StartsWith start s) := decidable_of_iff' _ startsWith_iff

end Text

namespace MethodIndex

/-! ## Indices -/

variable {entries : List (String × Method)} {signature : String} {m : Method} {h : Hierarchy}

theorem mem_keys_insert_iff {x : String} :
    x ∈ (insert entries signature m).map Prod.fst ↔ x = signature ∨ x ∈ entries.map Prod.fst := by
  -- What is taken out has the signature that is put in.
  by_cases hx : x = signature <;> simp [insert, hx]

theorem nodup_keys_insert (hnodup : (entries.map Prod.fst).Nodup) :
    ((insert entries signature m).map Prod.fst).Nodup := by
  rw [insert, List.map_cons, List.nodup_cons]
  refine ⟨?_, hnodup.sublist (List.filter_sublist.map _)⟩
  simp

/-- The index after putting in methods one after another. -/
theorem mem_keys_foldl_iff (methods : List Method) {x : String} :
    x ∈ (methods.foldl (fun entries m => insert entries (m.signature h) m) entries).map Prod.fst ↔
      (∃ m ∈ methods, m.signature h = x) ∨ x ∈ entries.map Prod.fst := by
  induction methods generalizing entries with
  | nil => simp
  | cons m methods ih =>
    rw [List.foldl_cons, ih, mem_keys_insert_iff, List.exists_mem_cons_iff, eq_comm (a := x),
      or_left_comm, or_assoc]

theorem nodup_keys_foldl (methods : List Method) (hnodup : (entries.map Prod.fst).Nodup) :
    ((methods.foldl (fun entries m => insert entries (m.signature h) m) entries).map
      Prod.fst).Nodup := by
  induction methods generalizing entries with
  | nil => exact hnodup
  | cons m methods ih => exact ih (nodup_keys_insert hnodup)

theorem isSome_get?_iff (i : MethodIndex) :
    (i.get? signature).isSome ↔ signature ∈ i.signatures := by
  rw [signatures, List.mem_mergeSort, get?, ← Option.ne_none_iff_isSome, ne_eq,
    List.lookup_eq_none_iff]
  simp

/-! ## Listings -/

/-- Sorting a list in which nothing stands twice. -/
theorem pairwise_mergeSort_of_nodup {l : List String} (hl : l.Nodup) :
    l.mergeSort.Pairwise (· < ·) := by
  have hle : l.mergeSort.Pairwise (· ≤ ·) := List.pairwise_mergeSort' (· ≤ ·) l
  have hne : l.mergeSort.Nodup := (List.mergeSort_perm l _).nodup_iff.2 hl
  exact (hle.and hne).imp fun hab => lt_of_le_of_ne hab.1 hab.2

variable (t : ClassTable) (c : Class)

theorem nodup_keys_build : ((build t c).entries.map Prod.fst).Nodup :=
  nodup_keys_foldl _ .nil

/-- The signatures of a class are listed in order, and each once. -/
theorem pairwise_signatures_build : (build t c).signatures.Pairwise (· < ·) :=
  pairwise_mergeSort_of_nodup (nodup_keys_build t c)

/-- The signatures of a class are those of the methods that the classes above it declare. -/
theorem mem_signatures_build_iff :
    signature ∈ (build t c).signatures ↔
      ∃ d, t.hierarchy.isA c d ∧ ∃ m ∈ t.declared d, m.signature t.hierarchy = signature := by
  rw [signatures, List.mem_mergeSort, build, mem_keys_foldl_iff]
  simp only [List.mem_flatMap, List.mem_reverse, Hierarchy.mem_linearization_iff, List.map_nil,
    List.not_mem_nil, or_false]
  constructor
  · rintro ⟨m, ⟨d, hd, hm⟩, rfl⟩
    exact ⟨d, hd, m, hm, rfl⟩
  · rintro ⟨d, hd, m, hm, rfl⟩
    exact ⟨m, ⟨d, hd, hm⟩, rfl⟩

/-- What is listed for a start is what begins with it. -/
theorem startingWith_eq_filter (i : MethodIndex) (start : String) :
    i.startingWith start = i.signatures.filter (Text.StartsWith start ·) := by
  rw [startingWith]
  refine List.filter_congr fun s _ => Bool.eq_iff_iff.2 ?_
  rw [decide_eq_true_iff, Text.startsWith_iff]

end MethodIndex

/-! ## Unknown tokens -/

/-- By its kind a failure is told apart from all others if it is for want of a method. -/
theorem Halt.kind_eq_unknown_iff {halt : Halt} :
    halt.kind = "unknown reference" ↔ ∃ token name, halt = .unknownMethod token name := by
  constructor
  · intro hkind
    cases halt with
    | unknownMethod token name => exact ⟨token, name, rfl⟩
    | callOnNull | returnedNull | raised | badArgument | tooFewArguments => simp [kind] at hkind
  · rintro ⟨token, name, rfl⟩
    rfl

/-- Whether a walk is reported to have ended at a reference that is unknown. -/
def Run.IsUnknown (r : Run) : Prop :=
  ∃ halt, r.outcome = .error halt ∧ halt.kind = "unknown reference"

theorem Run.isUnknown_iff {r : Run} :
    r.IsUnknown ↔ ∃ token name, r.outcome = .error (.unknownMethod token name) := by
  constructor
  · rintro ⟨halt, hout, hkind⟩
    obtain ⟨token, name, rfl⟩ := Halt.kind_eq_unknown_iff.1 hkind
    exact ⟨token, name, hout⟩
  · rintro ⟨token, name, hout⟩
    exact ⟨_, hout, rfl⟩

namespace Call

variable {k : Call} {h : Hierarchy} {token : String} {halt : Halt} {t : Store}

/-- A call that is made does not fail for want of a method. -/
theorem finish_ne_unknownMethod (hf : k.finish h token = (.error halt, t)) (x name : String) :
    halt ≠ .unknownMethod x name := by
  rintro rfl
  rcases finish_eq_error_iff.1 hf with ⟨_, -, hhalt, -⟩ | ⟨-, ⟨_, -, hhalt⟩ | ⟨-, -, hhalt⟩⟩ <;>
    cases hhalt

end Call

namespace Engine

variable (e : Engine) (token : String) (o : Object) (s : Store)

/-- Once a method has been found, a call is not refused for want of one. -/
theorem prepare_ne_unknownMethod {m : Method} {rest : List String} {halt : Halt} {t : Store}
    (hp : e.prepare token m rest o s = .error (halt, t)) (x name : String) :
    halt ≠ .unknownMethod x name := by
  rintro rfl
  rw [prepare] at hp
  split at hp
  · rename_i hcollect
    rw [collect] at hcollect
    split at hcollect
    · cases hcollect
      cases hp
    · split at hcollect
      · cases hcollect
      · cases hcollect
        cases hp
  · split at hp <;> cases hp

theorem run_singleton_of_get?_eq_none
    (hm : (MethodIndex.build e.table o.class_).get? token = none) :
    (e.run [token] (some o) s).outcome =
      .error (.unknownMethod token (e.hierarchy.name o.class_)) := by
  have hnext : e.next token [] (some o) s =
      .error (.unknownMethod token (e.hierarchy.name o.class_), s) := by
    rw [next, hm]
  rw [run_of_next_error hnext]

/-- A chain of one token is unknown if there is no method of this signature. -/
theorem isUnknown_run_singleton_iff :
    (e.run [token] (some o) s).IsUnknown ↔
      token ∉ (MethodIndex.build e.table o.class_).signatures := by
  rw [Run.isUnknown_iff, ← MethodIndex.isSome_get?_iff, Option.not_isSome_iff_eq_none]
  refine ⟨fun ⟨x, name, hx⟩ => ?_, fun hm => ⟨_, _, run_singleton_of_get?_eq_none e token o s hm⟩⟩
  rcases hm : (MethodIndex.build e.table o.class_).get? token with _ | m
  · rfl
  · -- Once there is a method, whatever else may go wrong is called by another name.
    have hnext : e.next token [] (some o) s = e.prepare token m [] o s := by
      rw [next, hm]
    rcases hp : e.prepare token m [] o s with ⟨halt, t⟩ | k
    · rw [run_of_next_error (hnext.trans hp)] at hx
      exact absurd (Except.error.inj hx) (prepare_ne_unknownMethod e token o s hp x name)
    · rcases hf : k.finish e.hierarchy token with ⟨halt | w, t⟩
      · rw [run_of_finish_error (hnext.trans hp) hf] at hx
        exact absurd (Except.error.inj hx) (Call.finish_ne_unknownMethod hf x name)
      · rw [run_of_finish_ok (hnext.trans hp) hf, List.drop_nil, run_nil] at hx
        cases hx

end Engine

end Chainwalk
