import Chainwalk.Proofs.Chain.Access
import Chainwalk.Proofs.Seeds.Methods

/-!
# Walks in step

Two walks of the same tokens, from a store and from one that is the same in disguise, make the
same calls with the same results as long as no call *tells* of the disguise: one that gives the
text of a list in which a world is described that looks different, or a hash code that is another
one.

* `Call.Quiet`: a call that does not tell;
* `Call.quiet_of_result`: a call that has the same result all the same is quiet;
* `InStep`: the calls of two walks that go in step up to the first one that tells;
* `Engine.inStep_calls`, `Engine.run_disguised`: walks do.
-/

namespace Chainwalk

variable {f : Disguise} {h : Hierarchy}

/-! ## One call -/

namespace Call

/-- The call in a store in disguise. -/
def disguised (f : Disguise) (k : Call) : Call :=
  { k with store := k.store.disguised f }

/-- A call that does not tell of the disguise: if it gives a text, the worlds described in that
    look the same, and if it gives a hash code, that is the same. -/
structure Quiet (f : Disguise) (k : Call) : Prop where
  text : k.method.name = "toString" →
    ∀ r ∈ k.receiver.told k.store.realm, k.store.realm.Keeps f r
  code : k.method.name = "hashCode" →
    f.codes k.receiver.identity = k.store.codes k.receiver.identity

/-- A call of an exported method of a built-in class, with as many arguments as it takes. -/
structure Exported (k : Call) : Prop where
  declared : ∃ b : Builtin, k.method ∈ b.methods
  visibility : k.method.visibility = .exported
  length_args : k.args.length = k.method.params.length

variable {k : Call}

/-- An exported method gives the text or the hash code, or it is blind and has another name. -/
theorem Exported.cases (hk : k.Exported) :
    k.method = .giveText ∨ k.method = .giveCode ∨
      k.method.name ∉ ["toString", "hashCode"] ∧ k.method.Blind f := by
  obtain ⟨b, hb⟩ := hk.declared
  by_cases htext : k.method.name = "toString"
  · exact .inl (Builtin.eq_of_name hb (by simp) htext)
  by_cases hcode : k.method.name = "hashCode"
  · exact .inr (.inl (Builtin.eq_of_name hb (by simp) hcode))
  have hname : k.method.name ∉ ["toString", "hashCode"] := by simp [htext, hcode]
  exact .inr (.inr ⟨hname, Builtin.blind_methods hb hk.visibility hname⟩)

/-- Nothing is said of calls by other names. -/
theorem quiet_of_name (hname : k.method.name ∉ ["toString", "hashCode"]) : k.Quiet f := by
  simp only [List.mem_cons, List.not_mem_nil, or_false, not_or] at hname
  exact ⟨fun htext => absurd htext hname.1, fun hcode => absurd hcode hname.2⟩

theorem quiet_iff_of_giveText (hm : k.method = .giveText) :
    k.Quiet f ↔ ∀ r ∈ k.receiver.told k.store.realm, k.store.realm.Keeps f r := by
  have hname : k.method.name = "toString" := by rw [hm]; rfl
  refine ⟨fun hq => hq.text hname, fun hkeeps => ⟨fun _ => hkeeps, fun hcode => ?_⟩⟩
  exact absurd (hname.symm.trans hcode) (by decide)

theorem quiet_iff_of_giveCode (hm : k.method = .giveCode) :
    k.Quiet f ↔ f.codes k.receiver.identity = k.store.codes k.receiver.identity := by
  have hname : k.method.name = "hashCode" := by rw [hm]; rfl
  refine ⟨fun hq => hq.code hname, fun hcodes => ⟨fun htext => ?_, fun _ => hcodes⟩⟩
  exact absurd (hname.symm.trans htext) (by decide)

/-- What a quiet call does is the same in disguise. -/
theorem effect_disguised (hk : k.Exported) (hq : k.Quiet f) :
    (k.disguised f).effect h = ((k.effect h).1, (k.effect h).2.disguised f) := by
  rw [effect, effect, disguised]
  dsimp only
  rcases hk.cases with hm | hm | ⟨-, hblind⟩
  · rw [hm]
    exact Prod.ext ((Method.giveText_disguised_iff ..).2 ((quiet_iff_of_giveText hm).1 hq)) rfl
  · rw [hm]
    exact Prod.ext ((Method.giveCode_disguised_iff ..).2 ((quiet_iff_of_giveCode hm).1 hq)) rfl
  · exact hblind h k.receiver k.args k.store

/-- A quiet call comes to the same. -/
theorem result_disguised (hk : k.Exported) (hq : k.Quiet f) :
    (k.disguised f).result h = ((k.result h).1, (k.result h).2.disguised f) := by
  have heffect := effect_disguised (h := h) hk hq
  simp only [result, Method.invoke_eq, effect, disguised] at heffect ⊢
  rw [heffect]
  cases k.method.obstacle? h k.receiver k.args with
  | some fault => rfl
  | none => rcases k.method.body h k.receiver k.args k.store with ⟨fault | v, t⟩ <;> rfl

/-- A call that is not quiet comes to something else. -/
theorem quiet_of_result (hk : k.Exported)
    (hr : ((k.disguised f).result h).1 = (k.result h).1) : k.Quiet f := by
  have hlength := hk.length_args
  -- Nothing forbids a text or a hash code to be asked for.
  simp only [result, disguised, Method.invoke_eq] at hr
  rcases hk.cases (f := f) with hm | hm | ⟨hname, -⟩
  · rw [hm] at hlength hr
    obtain hargs := List.length_eq_zero_iff.1 hlength
    rw [quiet_iff_of_giveText hm, ← Method.giveText_disguised_iff h k.receiver [] k.store]
    have hfree : Method.giveText.obstacle? h k.receiver [] = none := by
      simp [Method.obstacle?, Method.giveText, Method.declare, Method.misfit?]
    simpa only [hargs, hfree, Method.run_giveText] using hr
  · rw [hm] at hlength hr
    obtain hargs := List.length_eq_zero_iff.1 hlength
    rw [quiet_iff_of_giveCode hm, ← Method.giveCode_disguised_iff h k.receiver [] k.store]
    have hfree : Method.giveCode.obstacle? h k.receiver [] = none := by
      simp [Method.obstacle?, Method.giveCode, Method.declare, Method.misfit?]
    simpa only [hargs, hfree, Method.run_giveCode] using hr
  · exact quiet_of_name hname

theorem finish_disguised (hk : k.Exported) (hq : k.Quiet f) (token : String) :
    (k.disguised f).finish h token =
      ((k.finish h token).1, (k.finish h token).2.disguised f) := by
  have hresult := result_disguised (h := h) hk hq
  simp only [finish, hresult]
  rcases k.result h with ⟨fault | _ | o, t⟩
  · cases fault <;> rfl
  · rfl
  · rfl

end Call

/-! ## Calls in step -/

/-- The calls of two walks that go in step. Each is the other's in a store in disguise, up to the
    first one that tells of it; after that one anything may come. -/
inductive InStep (f : Disguise) : List Call → List Call → Prop
  | nil : InStep f [] []
  | quiet {k : Call} {ks ls : List Call} :
      k.Exported → k.Quiet f → InStep f ks ls → InStep f (k :: ks) (k.disguised f :: ls)
  | tells {k : Call} {ks ls : List Call} :
      k.Exported → ¬k.Quiet f → InStep f (k :: ks) (k.disguised f :: ls)

namespace InStep

variable {ks ls ks' ls' : List Call}

/-- What follows has to go in step only if nothing has told of the disguise before. -/
theorem append (hs : InStep f ks ls) (hs' : (∀ k ∈ ks, k.Quiet f) → InStep f ks' ls') :
    InStep f (ks ++ ks') (ls ++ ls') := by
  induction hs with
  | nil => exact hs' fun _ hk => by cases hk
  | quiet hk hq _ ih => exact .quiet hk hq (ih fun hall => hs' (List.forall_mem_cons.2 ⟨hq, hall⟩))
  | tells hk hq => exact .tells hk hq

/-- The results are the same exactly if no call tells of the disguise. -/
theorem results_eq_iff (hs : InStep f ks ls) :
    ls.map (fun k => (k.result h).1) = ks.map (fun k => (k.result h).1) ↔
      ∀ k ∈ ks, k.Quiet f := by
  induction hs with
  | nil => exact ⟨fun _ _ hk => (by cases hk), fun _ => rfl⟩
  | quiet hk hq _ ih =>
    rw [List.map_cons, List.map_cons, List.forall_mem_cons, ← ih, Call.result_disguised hk hq]
    simp [hq]
  | tells hk hq =>
    -- The call that tells has another result, whatever comes after it.
    refine ⟨fun heq => ?_, fun hall => absurd (hall _ List.mem_cons_self) hq⟩
    exact absurd (Call.quiet_of_result hk (List.cons.inj heq).1) hq

end InStep

/-! ## Walks -/

/-- An engine whose calls may tell of disguises only by giving texts and hash codes: the built-in
    classes are walked, only exported methods may be called, and literals are read without regard to
    them. -/
structure Engine.Discreet (f : Disguise) (e : Engine) : Prop where
  table : e.table = .builtins
  access : e.access = .exportedOnly
  inputs : ∀ i ∈ e.registry.inputs, i.Blind (Store.disguised f)

namespace Engine

variable {e : Engine}

/-- The same call is asked for, or the same failure comes. -/
theorem next_disguised (he : e.Discreet f) (token : String) (rest : List String) (v : Value)
    (s : Store) :
    e.next token rest v (s.disguised f) =
      match e.next token rest v s with
      | .error (halt, t) => .error (halt, t.disguised f)
      | .ok k => .ok (k.disguised f) := by
  cases v with
  | none => rfl
  | some recv =>
    simp only [next]
    cases (MethodIndex.build e.table recv.class_).get? token with
    | none => rfl
    | some m =>
      have hread : Blind (Store.disguised f)
          (e.registry.attemptEach e.hierarchy e.sender m.params rest) :=
        Registry.blind_attemptEach he.inputs m.params rest
      simp only [prepare, collect, hread s]
      rcases e.registry.attemptEach e.hierarchy e.sender m.params rest s with ⟨cause | args, t⟩
      · rfl
      · by_cases hlength : args.length = m.params.length
        · simp only [hlength, if_true]
          cases e.access.permits e.hierarchy m <;> rfl
        · simp only [hlength, if_false]

theorem exported_of_next (he : e.Discreet f) {token : String} {rest : List String} {v : Value}
    {s : Store} {k : Call} (hk : e.next token rest v s = .ok k) : k.Exported := by
  obtain ⟨-, -, -, hlength, hp⟩ := next_eq_ok_iff.1 hk
  refine ⟨exists_mem_methods_of_next he.table hk, ?_, hlength⟩
  rw [he.access, AccessPolicy.exportedOnly, AccessPolicy.permits_allowing_iff] at hp
  cases hv : k.method.visibility with
  | exported => rfl
  | internal => cases hp hv

section

variable {token : String} {rest : List String} {v : Value} {s t : Store} {k : Call}

theorem next_disguised_of_error (he : e.Discreet f) {halt : Halt}
    (hn : e.next token rest v s = .error (halt, t)) :
    e.next token rest v (s.disguised f) = .error (halt, t.disguised f) := by
  rw [next_disguised he, hn]

theorem next_disguised_of_ok (he : e.Discreet f) (hn : e.next token rest v s = .ok k) :
    e.next token rest v (s.disguised f) = .ok (k.disguised f) := by
  rw [next_disguised he, hn]

/-- A quiet call leads to the same, in a store in disguise. -/
theorem finish_disguised_of_next (he : e.Discreet f) (hn : e.next token rest v s = .ok k)
    (hq : k.Quiet f) {o : Except Halt Value}
    (hf : k.finish e.hierarchy token = (o, t)) :
    (k.disguised f).finish e.hierarchy token = (o, t.disguised f) := by
  rw [Call.finish_disguised (exported_of_next he hn) hq, hf]

end

/-- Walks go in step. -/
theorem inStep_calls (he : e.Discreet f) (tokens : List String) (v : Value) (s : Store) :
    InStep f (e.calls tokens v s) (e.calls tokens v (s.disguised f)) := by
  induction tokens, v, s using e.walk_induction with
  | nil v s => simpa using InStep.nil
  | refused token rest v s halt t hn =>
    rw [calls_of_next_error hn, calls_of_next_error (next_disguised_of_error he hn)]
    exact .nil
  | failed token rest v s k halt t hn hf =>
    have hn' := next_disguised_of_ok he hn
    by_cases hq : k.Quiet f
    · have hf' := finish_disguised_of_next he hn hq hf
      rw [calls_of_finish_error hn hf, calls_of_finish_error hn' hf']
      exact .quiet (exported_of_next he hn) hq .nil
    · -- Nothing is said of what follows a call that tells.
      rw [calls, hn, calls, hn']
      exact .tells (exported_of_next he hn) hq
  | made token rest v s k w t hn hf ih =>
    have hn' := next_disguised_of_ok he hn
    by_cases hq : k.Quiet f
    · have hf' := finish_disguised_of_next he hn hq hf
      rw [calls_of_finish_ok hn hf, calls_of_finish_ok hn' hf']
      exact .quiet (exported_of_next he hn) hq ih
    · rw [calls, hn, calls, hn']
      exact .tells (exported_of_next he hn) hq

/-- A walk of quiet calls comes to the same, in a store in disguise. -/
theorem run_disguised (he : e.Discreet f) (tokens : List String) (v : Value) (s : Store)
    (hq : ∀ k ∈ e.calls tokens v s, k.Quiet f) :
    e.run tokens v (s.disguised f) =
      let r := e.run tokens v s
      { r with store := r.store.disguised f } := by
  induction tokens, v, s using e.walk_induction with
  | nil v s => rw [run_nil, run_nil]
  | refused token rest v s halt t hn =>
    rw [run_of_next_error hn, run_of_next_error (next_disguised_of_error he hn)]
  | failed token rest v s k halt t hn hf =>
    rw [calls_of_finish_error hn hf, List.forall_mem_singleton] at hq
    have hf' := finish_disguised_of_next he hn hq hf
    rw [run_of_finish_error hn hf, run_of_finish_error (next_disguised_of_ok he hn) hf']
  | made token rest v s k w t hn hf ih =>
    rw [calls_of_finish_ok hn hf, List.forall_mem_cons] at hq
    have hf' := finish_disguised_of_next he hn hq.1 hf
    rw [run_of_finish_ok hn hf, run_of_finish_ok (next_disguised_of_ok he hn) hf',
      show (k.disguised f).method = k.method from rfl, ih hq.2]

end Engine

end Chainwalk
