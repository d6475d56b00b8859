import Chainwalk.Proofs.Registry.Handlers

/-!
# Changes of a registry

A registry comes about by changes from the one without handlers. However they follow on one
another, the table of input handlers and the list of the polymorphic ones stay in step, and
both lists keep the order in which their handlers were last accepted.

* `Registry.Coherent`: what holds of a registry after some handlers were accepted;
* `Registry.Coherent.apply`, `Registry.Coherent.after`: one change and many keep it;
* `Registry.inputFor?_eq_some_iff`: who serves a class;
* `Registry.coherent_after`: all of it for the registries that changes lead to.
-/

namespace Chainwalk

/-! ## Handlers as they come -/

namespace Handler

/-- The input handler that a handler is, if it is one. -/
def input? : Handler → Option InputHandler
  | input i => some i
  | output _ => none

/-- The output handler that a handler is, if it is one. -/
def output? : Handler → Option OutputHandler
  | input _ => none
  | output o => some o

/-- Whether two handlers are one. -/
def same : Handler → Handler → Bool
  | input i, input j => i.id = j.id
  | output o, output p => o.id = p.id
  | _, _ => false

/-- Each handler of these has one class, however often it comes. -/
def Steady (ks : List Handler) : Prop :=
  ∀ k ∈ ks, ∀ k' ∈ ks, k.same k' → k.relevant = k'.relevant

instance (ks : List Handler) : Decidable (Steady ks) :=
  inferInstanceAs (Decidable (∀ k ∈ ks, ∀ k' ∈ ks, k.same k' → k.relevant = k'.relevant))

namespace Steady

variable {ks ks' : List Handler}

theorem mono (hs : Steady ks') (hsub : ks ⊆ ks') : Steady ks :=
  fun k hk k' hk' => hs k (hsub hk) k' (hsub hk')

theorem input_relevant_eq (hs : Steady ks) {i j : InputHandler} (hi : input i ∈ ks)
    (hj : input j ∈ ks) (hid : i.id = j.id) : i.relevant = j.relevant :=
  hs _ hi _ hj (by simpa [same] using hid)

theorem output_relevant_eq (hs : Steady ks) {o p : OutputHandler} (ho : output o ∈ ks)
    (hp : output p ∈ ks) (hid : o.id = p.id) : o.relevant = p.relevant :=
  hs _ ho _ hp (by simpa [same] using hid)

end Steady

end Handler

/-- The elements of a list that come with no later one of the same identity. -/
def latest {α : Type} (id : α → HandlerId) (xs : List α) : List α :=
  xs.pwFilter fun a b => id a ≠ id b

/-- What comes last stays, and takes the place of what has its identity. -/
theorem latest_append_singleton {α : Type} (id : α → HandlerId) (xs : List α) (x : α) :
    latest id (xs ++ [x]) = (latest id xs).filter (id · ≠ id x) ++ [x] := by
  induction xs with
  | nil => rfl
  | cons y xs ih =>
    simp only [latest] at ih ⊢
    rw [List.cons_append]
    by_cases hy : ∀ b ∈ xs.pwFilter fun a b => id a ≠ id b, id y ≠ id b
    · rw [List.pwFilter_cons_of_pos hy]
      by_cases hyx : id y = id x
      · -- The new element takes the place of `y`.
        rw [List.pwFilter_cons_of_neg (by simp [ih, hyx]), ih,
          List.filter_cons_of_neg (by simp [hyx])]
      · rw [List.pwFilter_cons_of_pos, ih, List.filter_cons_of_pos (by simp [hyx]),
          List.cons_append]
        intro b hb
        rw [ih, List.mem_append, List.mem_singleton, List.mem_filter] at hb
        rcases hb with hb | rfl
        · exact hy b hb.1
        · exact hyx
    · rw [List.pwFilter_cons_of_neg hy, List.pwFilter_cons_of_neg, ih]
      -- What comes after `y` and has its identity is still there, or `x` has that identity.
      push Not at hy ⊢
      obtain ⟨b, hb, hyb⟩ := hy
      by_cases hbx : id b = id x
      · exact ⟨x, by simp [ih], hyb.trans hbx⟩
      · refine ⟨b, ?_, hyb⟩
        rw [ih, List.mem_append, List.mem_filter]
        exact .inl ⟨hb, by simpa using hbx⟩

/-- The input handlers among these, each where it comes last. -/
def latestInputs (ks : List Handler) : List InputHandler :=
  latest InputHandler.id (ks.filterMap Handler.input?)

/-- The output handlers among these, each where it comes last. -/
def latestOutputs (ks : List Handler) : List OutputHandler :=
  latest OutputHandler.id (ks.filterMap Handler.output?)

section

variable (ks : List Handler) (i : InputHandler) (o : OutputHandler)

theorem latestInputs_append_input :
    latestInputs (ks ++ [.input i]) = (latestInputs ks).filter (·.id ≠ i.id) ++ [i] := by
  rw [latestInputs, List.filterMap_append]
  exact latest_append_singleton _ _ i

@[simp] theorem latestInputs_append_output :
    latestInputs (ks ++ [.output o]) = latestInputs ks := by
  rw [latestInputs, List.filterMap_append]
  exact congrArg _ (List.append_nil _)

theorem latestOutputs_append_output :
    latestOutputs (ks ++ [.output o]) = (latestOutputs ks).filter (·.id ≠ o.id) ++ [o] := by
  rw [latestOutputs, List.filterMap_append]
  exact latest_append_singleton _ _ o

@[simp] theorem latestOutputs_append_input :
    latestOutputs (ks ++ [.input i]) = latestOutputs ks := by
  rw [latestOutputs, List.filterMap_append]
  exact congrArg _ (List.append_nil _)

variable {ks o}

theorem mem_of_mem_latestOutputs (ho : o ∈ latestOutputs ks) : .output o ∈ ks := by
  obtain ⟨k, hk, hko⟩ := List.mem_filterMap.1 (List.pwFilter_subset _ ho)
  cases k with
  | input i => cases hko
  | output p => cases hko; exact hk

end

/-- No two of the latest have one identity. -/
theorem nodup_map_of_sublist_latest {α : Type} {id : α → HandlerId} {xs ys : List α}
    (hs : ys.Sublist (latest id xs)) : (ys.map id).Nodup :=
  List.pairwise_map.2 ((List.pairwise_pwFilter _).sublist hs)

/-! ## Changes -/

namespace Registry

/-- A change of a registry. -/
inductive Change
  | register (k : Handler)
  | remove (k : Handler)
  | removeFor (c : Class)

/-- The handlers that a change names. -/
def Change.handlers : Change → List Handler
  | register k | remove k => [k]
  | removeFor _ => []

/-- Makes a change, and says whether it was made. -/
def apply (r : Registry) : Change → Bool × Registry
  | .register k => r.register k
  | .remove k => r.remove k
  | .removeFor c => r.removeFor c

/-- The registry after some changes. -/
def after (r : Registry) (changes : List Change) : Registry :=
  changes.foldl (fun r change => (r.apply change).2) r

/-- The handler that a change has the registry accept. -/
def accepted (r : Registry) : Change → List Handler
  | .register k => if (r.register k).1 then [k] else []
  | .remove _ | .removeFor _ => []

/-- The handlers that some changes have the registry accept, in order. -/
def acceptedIn (r : Registry) : List Change → List Handler
  | [] => []
  | change :: changes => r.accepted change ++ acceptedIn (r.apply change).2 changes

theorem accepted_subset (r : Registry) (change : Change) :
    r.accepted change ⊆ change.handlers := by
  cases change with
  | register k => rw [accepted]; split <;> simp [Change.handlers]
  | remove k | removeFor c => simp [accepted]

theorem acceptedIn_subset (r : Registry) (changes : List Change) :
    r.acceptedIn changes ⊆ changes.flatMap Change.handlers := by
  induction changes generalizing r with
  | nil => simp [acceptedIn]
  | cons change changes ih =>
    have haccepted := accepted_subset r change
    have hlater := ih (r.apply change).2
    rw [acceptedIn, List.flatMap_cons]
    grind

/-! ## Coherent registries -/

/-- The registry is in order, after `ks` were accepted one after another. -/
structure Coherent (r : Registry) (ks : List Handler) : Prop where
  /-- No class has two input handlers. -/
  keys_nodup : (r.exact.map Prod.fst).Nodup
  /-- An input handler stands under its own class. -/
  relevant_eq : ∀ e ∈ r.exact, e.2.relevant = e.1
  /-- An input handler that stands in the table was accepted. -/
  input_mem : ∀ e ∈ r.exact, .input e.2 ∈ ks
  /-- The list of polymorphic handlers is that of those in the table. -/
  mem_polymorphic : ∀ i, i ∈ r.polymorphic ↔ i.polymorphic ∧ (i.relevant, i) ∈ r.exact
  /-- The polymorphic handlers stand as they were last accepted, each once. -/
  polymorphic_sublist : r.polymorphic.Sublist (latestInputs ks)
  /-- No class has two output handlers. -/
  outputs_nodup : (r.outputs.map OutputHandler.relevant).Nodup
  /-- The output handlers stand as they were last accepted, each once. -/
  outputs_sublist : r.outputs.Sublist (latestOutputs ks)

theorem coherent_empty : empty.Coherent [] :=
  ⟨.nil, by simp [empty], by simp [empty], by simp [empty], .refl _, .nil, .refl _⟩

variable {r : Registry} {ks : List Handler} {c : Class} {i j old : InputHandler}

theorem registered?_eq_none_iff : r.registered? c = none ↔ ∀ j, (c, j) ∉ r.exact := by
  rw [registered?, List.lookup_eq_none_iff]
  constructor
  · intro hnone j hj
    simpa using hnone _ hj
  · rintro hnone ⟨d, j⟩ hj
    refine bne_iff_ne.2 ?_
    rintro rfl
    exact hnone j hj

/-- A class that has no input handler cannot lose one. -/
theorem vacate_of_free (hfree : ∀ j, (c, j) ∉ r.exact) : r.vacate c = r := by
  have hkept : r.exact.filter (·.1 ≠ c) = r.exact := by
    refine List.filter_eq_self.2 ?_
    rintro ⟨d, j⟩ hj
    refine decide_eq_true ?_
    rintro rfl
    exact hfree j hj
  rw [vacate, hkept]

namespace Coherent

/-- A class has one handler in the table. -/
theorem eq_of_mem (hr : r.Coherent ks) (hi : (c, i) ∈ r.exact) (hj : (c, j) ∈ r.exact) :
    i = j := by
  have hpair := List.inj_on_of_nodup_map hr.keys_nodup hi hj rfl
  exact congrArg Prod.snd hpair

theorem registered?_eq_some_iff (hr : r.Coherent ks) :
    r.registered? c = some i ↔ (c, i) ∈ r.exact := by
  refine ⟨mem_exact_of_registered?, fun hi => ?_⟩
  cases hj : r.registered? c with
  | none => exact absurd hi (registered?_eq_none_iff.1 hj i)
  | some j => rw [hr.eq_of_mem (mem_exact_of_registered? hj) hi]

/-- Every polymorphic handler in the list was accepted. -/
theorem input_mem_of_mem_polymorphic (hr : r.Coherent ks) (hj : j ∈ r.polymorphic) :
    .input j ∈ ks :=
  hr.input_mem _ ((hr.mem_polymorphic j).1 hj).2

/-! ### One change -/

/-- Without its input handler a class is out of the table and of the list. -/
theorem vacate_forget (hr : r.Coherent ks) (hs : Handler.Steady ks) (hold : (c, old) ∈ r.exact) :
    ((r.vacate c).forget old).Coherent ks where
  keys_nodup := hr.keys_nodup.sublist (List.filter_sublist.map _)
  relevant_eq e he := hr.relevant_eq e (List.mem_filter.1 he).1
  input_mem e he := hr.input_mem e (List.mem_filter.1 he).1
  mem_polymorphic j := by
    have hclass : old.relevant = c := hr.relevant_eq _ hold
    simp only [forget, vacate, List.mem_filter, hr.mem_polymorphic j, decide_eq_true_eq]
    constructor
    · rintro ⟨⟨hp, hj⟩, hid⟩
      refine ⟨hp, hj, ?_⟩
      rintro hjc
      exact hid (congrArg InputHandler.id (hr.eq_of_mem (hjc ▸ hj) hold))
    · rintro ⟨hp, hj, hjc⟩
      refine ⟨⟨hp, hj⟩, fun hid => hjc ?_⟩
      -- One identity is one class.
      rw [hs.input_relevant_eq (hr.input_mem _ hj) (hr.input_mem _ hold) hid, hclass]
  polymorphic_sublist := List.filter_sublist.trans hr.polymorphic_sublist
  outputs_nodup := hr.outputs_nodup
  outputs_sublist := hr.outputs_sublist

/-- A handler that may come where there is none is not in the list either. -/
theorem id_ne_of_free (hr : r.Coherent ks) (hs : Handler.Steady (ks ++ [.input i]))
    (hfree : ∀ j, (i.relevant, j) ∉ r.exact) : ∀ j ∈ r.polymorphic, j.id ≠ i.id := by
  intro j hj hid
  -- One that is in the list stands in the table, under the same class.
  have hclass : j.relevant = i.relevant :=
    hs.input_relevant_eq (List.mem_append_left _ (hr.input_mem_of_mem_polymorphic hj)) (by simp)
      hid
  exact hfree j (hclass ▸ ((hr.mem_polymorphic j).1 hj).2)

/-- An output handler that may come where there is none does not stand anywhere. -/
theorem output_id_ne_of_free (hr : r.Coherent ks) {o : OutputHandler}
    (hs : Handler.Steady (ks ++ [.output o])) (hfree : ∀ p ∈ r.outputs, p.relevant ≠ o.relevant) :
    ∀ p ∈ r.outputs, p.id ≠ o.id := by
  intro p hp hid
  have hmem : .output p ∈ ks := mem_of_mem_latestOutputs (hr.outputs_sublist.subset hp)
  exact hfree p hp (hs.output_relevant_eq (List.mem_append_left _ hmem) (by simp) hid)

/-- A class without an input handler gets one. -/
theorem install (hr : r.Coherent ks) (hs : Handler.Steady (ks ++ [.input i]))
    (hfree : ∀ j, (i.relevant, j) ∉ r.exact) : (r.install i).Coherent (ks ++ [.input i]) := by
  have hexact : (r.install i).exact = r.exact ++ [(i.relevant, i)] := by
    rw [Registry.install, vacate_of_free hfree]
  have hnew := hr.id_ne_of_free hs hfree
  have hsub : r.polymorphic.Sublist ((latestInputs ks).filter (·.id ≠ i.id)) := by
    rw [← List.filter_eq_self.2 fun j hj => decide_eq_true (hnew j hj)]
    exact hr.polymorphic_sublist.filter _
  refine ⟨?keys_nodup, ?relevant_eq, ?input_mem, fun j => ?mem_polymorphic,
    ?polymorphic_sublist, hr.outputs_nodup, ?outputs_sublist⟩
  case keys_nodup =>
    rw [hexact, List.map_append, List.nodup_append]
    refine ⟨hr.keys_nodup, List.nodup_singleton _, ?_⟩
    rintro d hd _ hd' rfl
    obtain ⟨⟨_, j⟩, hj, rfl⟩ := List.mem_map.1 hd
    obtain rfl := List.mem_singleton.1 hd'
    exact hfree j hj
  case relevant_eq =>
    rw [hexact]
    rintro e he
    rcases List.mem_append.1 he with he | he
    · exact hr.relevant_eq e he
    · rw [List.mem_singleton.1 he]
  case input_mem =>
    rw [hexact]
    rintro e he
    rcases List.mem_append.1 he with he | he
    · exact List.mem_append_left _ (hr.input_mem e he)
    · rw [List.mem_singleton.1 he]
      simp
  case mem_polymorphic =>
    rw [hexact, List.mem_append, List.mem_singleton, and_or_left, ← hr.mem_polymorphic j]
    by_cases hp : i.polymorphic
    · simp only [Registry.install, hp, if_true, List.mem_append, List.mem_singleton]
      refine or_congr_right ⟨?_, fun hj => (Prod.mk.inj hj.2).2⟩
      rintro rfl
      exact ⟨hp, rfl⟩
    · simp only [Registry.install, hp, Bool.false_eq_true, if_false]
      refine (or_iff_left ?_).symm
      rintro ⟨hj, heq⟩
      exact hp ((Prod.mk.inj heq).2 ▸ hj)
  case polymorphic_sublist =>
    rw [latestInputs_append_input, Registry.install]
    by_cases hp : i.polymorphic
    · simpa only [hp, if_true] using hsub.append (.refl [i])
    · simpa only [hp, Bool.false_eq_true, if_false] using hsub.trans (List.sublist_append_left _ _)
  case outputs_sublist =>
    rw [latestOutputs_append_input]
    exact hr.outputs_sublist

/-- Fewer output handlers. -/
theorem filterOutputs (hr : r.Coherent ks) (p : OutputHandler → Bool) :
    ({ r with outputs := r.outputs.filter p } : Registry).Coherent ks :=
  ⟨hr.keys_nodup, hr.relevant_eq, hr.input_mem, hr.mem_polymorphic, hr.polymorphic_sublist,
    hr.outputs_nodup.sublist (List.filter_sublist.map _),
    List.filter_sublist.trans hr.outputs_sublist⟩

/-- A class without an output handler gets one. -/
theorem appendOutput (hr : r.Coherent ks) {o : OutputHandler}
    (hs : Handler.Steady (ks ++ [.output o])) (hfree : ∀ p ∈ r.outputs, p.relevant ≠ o.relevant) :
    ({ r with outputs := r.outputs ++ [o] } : Registry).Coherent (ks ++ [.output o]) := by
  have hnew := hr.output_id_ne_of_free hs hfree
  have hsub : r.outputs.Sublist ((latestOutputs ks).filter (·.id ≠ o.id)) := by
    rw [← List.filter_eq_self.2 fun p hp => decide_eq_true (hnew p hp)]
    exact hr.outputs_sublist.filter _
  refine ⟨hr.keys_nodup, hr.relevant_eq, fun e he => List.mem_append_left _ (hr.input_mem e he),
    hr.mem_polymorphic, ?_, ?_, ?_⟩
  · rw [latestInputs_append_output]
    exact hr.polymorphic_sublist
  · rw [List.map_append, List.nodup_append]
    refine ⟨hr.outputs_nodup, List.nodup_singleton _, ?_⟩
    rintro d hd _ hd' rfl
    obtain ⟨p, hp, rfl⟩ := List.mem_map.1 hd
    exact hfree p hp (List.mem_singleton.1 hd')
  · rw [latestOutputs_append_output]
    exact hsub.append (.refl [o])

/-- A registration keeps a registry in order, whether it is accepted or not. -/
theorem register (hr : r.Coherent ks) {k : Handler} (hs : Handler.Steady (ks ++ [k])) :
    (r.register k).2.Coherent (ks ++ r.accepted (.register k)) := by
  rw [accepted]
  cases k with
  | input i =>
    rw [Registry.register]
    cases hold : r.registered? i.relevant with
    | none => exact hr.install hs (registered?_eq_none_iff.1 hold)
    | some old =>
      by_cases hp : old.polymorphic
      · -- The class is vacated first, although `install` would do that as well.
        have hmem := mem_exact_of_registered? hold
        have hfree := (hr.vacate_forget (hs.mono (List.subset_append_left _ _)) hmem).install hs
          fun j hj => by simpa [vacate, forget] using (List.mem_filter.1 hj).2
        have hinstall :
            ((r.vacate i.relevant).forget old).install i = (r.forget old).install i := by
          simp [Registry.install, vacate, forget]
        simpa [hp, hinstall] using hfree
      · simpa [hp] using hr
  | output o =>
    rw [Registry.register]
    by_cases ho : r.outputs.any (·.relevant = o.relevant)
    · simpa [ho] using hr
    · have hfree : ∀ p ∈ r.outputs, p.relevant ≠ o.relevant := by simpa using ho
      simpa [ho] using hr.appendOutput hs hfree

/-- A removal keeps a registry in order. -/
theorem remove (hr : r.Coherent ks) {k : Handler} (hs : Handler.Steady ks) :
    (r.remove k).2.Coherent ks := by
  cases k with
  | input i =>
    rw [Registry.remove]
    cases hold : r.registered? i.relevant with
    | none => exact hr
    | some old =>
      by_cases hid : old.id = i.id
      · -- What is forgotten is told by its identity.
        have hforget : ((r.vacate i.relevant).forget old) = (r.vacate i.relevant).forget i := by
          rw [forget, hid, forget]
        simpa [hid, hforget] using hr.vacate_forget hs (mem_exact_of_registered? hold)
      · simpa [hid] using hr
  | output o => exact hr.filterOutputs _

/-- A class without its handlers leaves a registry in order. -/
theorem removeFor (hr : r.Coherent ks) (hs : Handler.Steady ks) (c : Class) :
    (r.removeFor c).2.Coherent ks := by
  rw [Registry.removeFor]
  cases hold : r.registered? c with
  | none => exact hr.filterOutputs _
  | some old => exact (hr.vacate_forget hs (mem_exact_of_registered? hold)).filterOutputs _

end Coherent

/-! ### Many changes -/

namespace Coherent

/-- A change keeps a registry in order. -/
theorem apply (hr : r.Coherent ks) {change : Change}
    (hs : Handler.Steady (ks ++ change.handlers)) :
    (r.apply change).2.Coherent (ks ++ r.accepted change) := by
  have hks : Handler.Steady ks := hs.mono (List.subset_append_left _ _)
  cases change with
  | register k => exact hr.register hs
  | remove k =>
    rw [accepted, List.append_nil]
    exact hr.remove hks
  | removeFor c =>
    rw [accepted, List.append_nil]
    exact hr.removeFor hks c

/-- Changes keep a registry in order, one after another. -/
theorem after (hr : r.Coherent ks) {changes : List Change}
    (hs : Handler.Steady (ks ++ changes.flatMap Change.handlers)) :
    (r.after changes).Coherent (ks ++ r.acceptedIn changes) := by
  induction changes generalizing r ks with
  | nil => simpa [acceptedIn, Registry.after] using hr
  | cons change changes ih =>
    rw [List.flatMap_cons, ← List.append_assoc] at hs
    have happly := hr.apply (hs.mono (List.subset_append_left _ _))
    rw [acceptedIn, ← List.append_assoc]
    -- What was accepted is among what the change names.
    have haccepted := accepted_subset r change
    exact ih happly (hs.mono (by grind))

end Coherent

/-- Registering handlers is one change after another. -/
theorem registerAll_eq_after (r : Registry) (ks : List Handler) :
    (r.registerAll ks).2 = r.after (ks.map .register) := by
  induction ks generalizing r with
  | nil => rfl
  | cons k ks ih => exact ih (r.register k).2

/-! ## Answers of changes -/

/-- A handler that may not be replaced stands where this one would. -/
def Refuses (r : Registry) : Handler → Prop
  | .input i => ∃ j, (i.relevant, j) ∈ r.exact ∧ j.polymorphic = false
  | .output o => ∃ p ∈ r.outputs, p.relevant = o.relevant

/-- No handler of its side stands where this one would. -/
def Vacant (r : Registry) : Handler → Prop
  | .input i => ∀ j, (i.relevant, j) ∉ r.exact
  | .output o => ∀ p ∈ r.outputs, p.relevant ≠ o.relevant

/-- A handler is refused exactly if another one stands that may not be replaced. -/
theorem register_eq_false_iff (hr : r.Coherent ks) (k : Handler) :
    (r.register k).1 = false ↔ r.Refuses k := by
  cases k with
  | input i =>
    rw [register, Refuses]
    cases hold : r.registered? i.relevant with
    | none => simp [registered?_eq_none_iff.1 hold]
    | some old =>
      have hmem := mem_exact_of_registered? hold
      have hiff : (∃ j, (i.relevant, j) ∈ r.exact ∧ j.polymorphic = false) ↔
          old.polymorphic = false := by
        constructor
        · rintro ⟨j, hj, hp⟩
          rwa [hr.eq_of_mem hmem hj]
        · exact fun hp => ⟨old, hmem, hp⟩
      rw [hiff]
      cases hp : old.polymorphic <;> simp [hp]
  | output o =>
    rw [register, Refuses]
    split <;> simp_all

/-- A change that is not made leaves the registry as it is. -/
theorem apply_of_eq_false {change : Change} (ho : (r.apply change).1 = false) :
    (r.apply change).2 = r := by
  have houtputs (p : OutputHandler → Bool)
      (hlength : decide ((r.outputs.filter p).length ≠ r.outputs.length) = false) :
      ({ r with outputs := r.outputs.filter p } : Registry) = r := by
    -- A list from which nothing is missing is the whole list.
    have hall : r.outputs.filter p = r.outputs :=
      List.filter_sublist.eq_of_length (by simpa using hlength)
    rw [hall]
  cases change with
  | register k =>
    cases k with
    | input i =>
      simp only [apply, register] at ho ⊢
      split at ho
      · split at ho <;> simp_all
      · cases ho
    | output o =>
      simp only [apply, register] at ho ⊢
      split at ho <;> simp_all
  | remove k =>
    cases k with
    | input i =>
      simp only [apply, remove] at ho ⊢
      split at ho <;> simp_all
    | output o => exact houtputs _ ho
  | removeFor c =>
    simp only [apply, removeFor] at ho ⊢
    split at ho
    · cases ho
    · exact houtputs _ ho

/-- A handler that comes where there was none and goes again leaves nothing behind. -/
theorem remove_register (hr : r.Coherent ks) {k : Handler} (hs : Handler.Steady (ks ++ [k]))
    (hv : r.Vacant k) : (r.register k).1 = true ∧ (r.register k).2.remove k = (true, r) := by
  cases k with
  | input i =>
    have hnone : r.registered? i.relevant = none := registered?_eq_none_iff.2 hv
    have hinstalled : (r.install i).registered? i.relevant = some i :=
      (hr.install hs hv).registered?_eq_some_iff.2 (by simp [install])
    have hfree : r.exact.filter (·.1 ≠ i.relevant) = r.exact :=
      congrArg exact (vacate_of_free hv)
    have hexact : ((r.install i).vacate i.relevant).exact = r.exact := by
      rw [vacate, install, vacate_of_free hv, List.filter_append,
        List.filter_cons_of_neg (by simp), List.filter_nil, List.append_nil, hfree]
    have hpolymorphic : (r.install i).polymorphic.filter (·.id ≠ i.id) = r.polymorphic := by
      have hkept := List.filter_eq_self.2 fun j hj => decide_eq_true (hr.id_ne_of_free hs hv j hj)
      rw [install]
      split
      · rw [List.filter_append, hkept, List.filter_cons_of_neg (by simp), List.filter_nil,
          List.append_nil]
      · exact hkept
    rw [register, hnone]
    refine ⟨rfl, ?_⟩
    simp only [remove, hinstalled, Option.any_some, decide_true, if_true]
    change (true, (⟨((r.install i).vacate i.relevant).exact,
      (r.install i).polymorphic.filter (·.id ≠ i.id), r.outputs, r.room⟩ : Registry)) = (true, r)
    rw [hexact, hpolymorphic]
  | output o =>
    have hnone : r.outputs.any (·.relevant = o.relevant) = false := by simpa [Vacant] using hv
    have hkept : (r.outputs ++ [o]).filter (·.id ≠ o.id) = r.outputs := by
      rw [List.filter_append, List.filter_cons_of_neg (by simp), List.filter_nil, List.append_nil]
      exact List.filter_eq_self.2 fun p hp => decide_eq_true (hr.output_id_ne_of_free hs hv p hp)
    rw [register, hnone]
    refine ⟨rfl, ?_⟩
    simp only [Bool.false_eq_true, if_false, remove, hkept]
    simp

/-! ## Who serves a class -/

/-- A class is served by its handler in the table, and else by the first handler in the list
    that it lies below. -/
theorem inputFor?_eq_some_iff (hr : r.Coherent ks) (h : Hierarchy) (c : Class) :
    r.inputFor? h c = some i ↔
      (c, i) ∈ r.exact ∨ (∀ j, (c, j) ∉ r.exact) ∧ ∃ before after,
        r.polymorphic = before ++ i :: after ∧ h.isA c i.relevant ∧
          ∀ j ∈ before, h.isA c j.relevant = false := by
  rw [inputFor?, Option.or_eq_some_iff, hr.registered?_eq_some_iff, registered?_eq_none_iff,
    List.find?_eq_some_iff_append]
  refine or_congr_right (and_congr_right fun _ => ?_)
  simp only [Bool.not_eq_true']
  exact ⟨fun ⟨hi, before, after, heq, hbefore⟩ => ⟨before, after, heq, hi, hbefore⟩,
    fun ⟨before, after, heq, hi, hbefore⟩ => ⟨hi, before, after, heq, hbefore⟩⟩

/-- Whatever changes were made of the registry without handlers, it is in order: table and list
    are in step, and what was accepted stands in the order in which it last was. A handler is
    refused exactly if another one stands that may not be replaced, a change that is not made
    leaves the registry alone, and one handler that comes and goes leaves no trace. So a class is
    served by its own handler, or else by the first of the polymorphic ones that it lies
    below. -/
theorem coherent_after (changes : List Change)
    (hs : Handler.Steady (changes.flatMap Change.handlers)) :
    let r := empty.after changes
    r.Coherent (empty.acceptedIn changes) ∧
    (r.polymorphic.map InputHandler.id).Nodup ∧ (r.outputs.map OutputHandler.id).Nodup ∧
    (∀ k, (r.register k).1 = false ↔ r.Refuses k) ∧
    (∀ change, (r.apply change).1 = false → (r.apply change).2 = r) ∧
    (∀ k, Handler.Steady (changes.flatMap Change.handlers ++ [k]) → r.Vacant k →
      (r.register k).1 = true ∧ (r.register k).2.remove k = (true, r)) ∧
    ∀ (h : Hierarchy) (c : Class) (i : InputHandler), r.inputFor? h c = some i ↔
      (c, i) ∈ r.exact ∨ (∀ j, (c, j) ∉ r.exact) ∧ ∃ before after,
        r.polymorphic = before ++ i :: after ∧ h.isA c i.relevant ∧
          ∀ j ∈ before, h.isA c j.relevant = false := by
  intro r
  have hr : r.Coherent (empty.acceptedIn changes) := coherent_empty.after hs
  refine ⟨hr, nodup_map_of_sublist_latest hr.polymorphic_sublist,
    nodup_map_of_sublist_latest hr.outputs_sublist, register_eq_false_iff hr,
    fun _ => apply_of_eq_false, fun k hk hv => ?_, fun h c _ => inputFor?_eq_some_iff hr h c⟩
  have haccepted := acceptedIn_subset empty changes
  exact remove_register hr (hk.mono (by grind)) hv

/-- The handler of collections comes before that of enumerations, but is replaced by itself and so
    comes after it; then that of enumerations is removed and comes back. -/
theorem coherent_after_replaced :
    let changes : List Change :=
      [.register (.input collectionInput), .register (.input enumerationInput),
        .register (.input collectionInput), .register (.output enumerationOutput),
        .remove (.input enumerationInput), .register (.output enumerationOutput),
        .removeFor .enumeration, .register (.input enumerationInput)]
    let r := empty.after changes
    Handler.Steady (changes.flatMap Change.handlers) ∧
      r.polymorphic.map InputHandler.id = [.shipped .collection, .shipped .enumeration] ∧
      r.outputs.length = 0 ∧ r.Coherent (empty.acceptedIn changes) ∧
      (r.register (.output enumerationOutput)).2.remove (.output enumerationOutput) = (true, r) := by
  intro changes r
  have hs : Handler.Steady (changes.flatMap Change.handlers) := by decide
  obtain ⟨hr, -, -, -, -, hrestored, -⟩ := coherent_after changes hs
  refine ⟨hs, by decide, by decide, hr, (hrestored _ (by decide) fun o ho => ?_).2⟩
  -- There is no output handler left.
  cases ho

end Registry

end Chainwalk
