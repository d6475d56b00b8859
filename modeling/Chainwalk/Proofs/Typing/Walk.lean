import Chainwalk.Proofs.Chain.Calls
import Chainwalk.Proofs.Typing.Conversion

/-!
# Calls and classes

Before its body runs, a method looks at what it is called with: how many arguments there are, the
class of the receiver and the classes of the arguments. A walk only makes calls that stand all of
this. The method is found in the index of the receiver's class, so it is declared by a class of its
linearization, above it; and the arguments are what the literals are read as.

* `Method.obstacle?_eq_none_iff`: when nothing forbids a call;
* `Engine.obstacle?_of_next`: nothing forbids the next call of a walk;
* `Engine.calls_fit`: nothing forbids any call of a walk.
-/

namespace Chainwalk

/-! ## What forbids a call -/

namespace Method

variable {h : Hierarchy} {m : Method} {recv : Object} {args : List Value}

theorem misfit?_eq_none_iff {params : List Class} (hlength : args.length = params.length)
    (k : Nat) : misfit? h params args k = none ↔ List.Forall₂ h.Fits params args := by
  induction params generalizing args k with
  | nil =>
    obtain rfl := List.length_eq_zero_iff.1 hlength
    simp [misfit?]
  | cons param params ih =>
    cases args with
    | nil => cases hlength
    | cons arg args =>
      rw [List.forall₂_cons, ← ih (Nat.succ.inj hlength) (k + 1)]
      cases arg with
      | none => simp [misfit?]
      | some o =>
        rw [misfit?, Hierarchy.fits_some]
        split <;> simp [*]

/-- Nothing forbids a call whose receiver is of the class that declares the method and whose
    arguments are of the classes of the parameters, as many as these. -/
theorem obstacle?_eq_none_iff :
    m.obstacle? h recv args = none ↔
      h.isA recv.class_ m.declaring ∧ List.Forall₂ h.Fits m.params args := by
  rw [obstacle?]
  constructor
  · intro ho
    split at ho
    · cases ho
    · rename_i hlength
      split at ho
      · cases ho
      · rename_i hrecv
        rw [Option.map_eq_none_iff, misfit?_eq_none_iff (not_not.1 hlength)] at ho
        exact ⟨by simpa using hrecv, ho⟩
  · rintro ⟨hrecv, hargs⟩
    have hlength : args.length = m.params.length := hargs.length_eq.symm
    rw [if_neg (not_not.2 hlength), if_neg (by simp [hrecv]), Option.map_eq_none_iff]
    exact (misfit?_eq_none_iff hlength 0).2 hargs

end Method

/-- A call that nothing forbids gives what its body gives, and fails where that fails. -/
theorem Call.result_eq {h : Hierarchy} {k : Call}
    (ho : k.method.obstacle? h k.receiver k.args = none) :
    k.result h =
      match k.effect h with
      | (.error cause, t) => (.error (.raised (k.method.signature h) cause), t)
      | (.ok v, t) => (.ok v, t) := by
  rw [result, Method.invoke_eq, ho]
  rfl

namespace Registry

/-- What the registries of the library read fits the classes that it is read as, one by one. -/
theorem forall₂_fits_of_attemptEach {server? : Option (Ref .server)} {h : Hierarchy}
    {sender : Option Sender} {cs : List Class} {ls : List String} {vs : List Value} {s t : Store}
    (hv : (shipped server?).attemptEach h sender cs ls s = (.ok vs, t))
    (hlength : vs.length = cs.length) : List.Forall₂ h.Fits cs vs := by
  induction cs generalizing ls vs s with
  | nil =>
    obtain rfl := List.length_eq_zero_iff.1 hlength
    exact .nil
  | cons c cs ih =>
    cases ls with
    | nil =>
      rw [attemptEach_nil_right] at hv
      cases hv
      cases hlength
    | cons l ls =>
      rw [attemptEach_cons] at hv
      split at hv
      · cases hv
      · rename_i hfirst
        split at hv
        · cases hv
        · rename_i hrest
          cases hv
          exact .cons (fits_of_shipped_attempt hfirst) (ih hrest (Nat.succ.inj hlength))

end Registry

/-! ## Walks -/

namespace Engine

variable {e : Engine} {server? : Option (Ref .server)}

/-- A walk does not come to a call that something forbids. -/
theorem obstacle?_of_next (hr : e.registry = .shipped server?)
    (ht : ∀ c, ∀ m ∈ e.table.declared c, m.declaring = c) {token : String} {rest : List String}
    {v : Value} {s : Store} {k : Call} (hk : e.next token rest v s = .ok k) :
    k.method.obstacle? e.hierarchy k.receiver k.args = none := by
  obtain ⟨-, hm, hargs, hlength, -⟩ := next_eq_ok_iff.1 hk
  rw [hr] at hargs
  -- The index keeps the methods of the linearization, and the receiver lies below all of that.
  obtain ⟨d, hd, hdeclared⟩ := MethodIndex.exists_declared_of_get? hm
  rw [Method.obstacle?_eq_none_iff, ht d _ hdeclared]
  exact ⟨e.hierarchy.isA_of_mem_linearization hd,
    Registry.forall₂_fits_of_attemptEach hargs hlength⟩

/-- Nothing forbids any call of a walk, so a fault of a call is always one of the body. -/
theorem obstacle?_of_mem_calls (hr : e.registry = .shipped server?)
    (ht : ∀ c, ∀ m ∈ e.table.declared c, m.declaring = c) {tokens : List String} {v : Value}
    {s : Store} {k : Call} (hk : k ∈ e.calls tokens v s) :
    k.method.obstacle? e.hierarchy k.receiver k.args = none := by
  induction tokens, v, s using walk_induction (e := e) with
  | nil v s => simp at hk
  | refused token rest v s halt t hn => simp [calls_of_next_error hn] at hk
  | failed token rest v s j halt t hn hf =>
    rw [calls_of_finish_error hn hf, List.mem_singleton] at hk
    exact hk ▸ obstacle?_of_next hr ht hn
  | made token rest v s j w t hn hf ih =>
    rw [calls_of_finish_ok hn hf, List.mem_cons] at hk
    rcases hk with rfl | hk
    · exact obstacle?_of_next hr ht hn
    · exact ih hk

/-- A call that is not made is not said to have failed, unless access to it is denied. -/
theorem illegalAccess_of_next {token token' : String} {rest : List String} {v : Value}
    {s t : Store} {cause : Fault}
    (hn : e.next token rest v s = .error (.raised token' cause, t)) :
    ∃ m : Method, e.access.permits e.hierarchy m = false ∧
      cause = .illegalAccess (m.signature e.hierarchy) := by
  cases v with
  | none => cases hn
  | some recv =>
    rw [next] at hn
    split at hn
    · cases hn
    · rename_i m _
      rw [prepare, collect] at hn
      split at hn <;> rename_i hc
      · -- Literals that do not convert, and too few of them, are told apart from failures.
        split at hc
        · cases hc; cases hn
        · split at hc <;> cases hc
          cases hn
      · split at hn
        · cases hn
        · rename_i hp
          cases hn
          exact ⟨m, Bool.eq_false_iff.2 hp, rfl⟩

/-- A walk that ends with a failure ends with that of a body, or with that of an access. -/
theorem cause_of_run (hr : e.registry = .shipped server?)
    (ht : ∀ c, ∀ m ∈ e.table.declared c, m.declaring = c) {tokens : List String} {v : Value}
    {s : Store} {token' : String} {cause : Fault}
    (ho : (e.run tokens v s).outcome = .error (.raised token' cause)) :
    (∃ m : Method, e.access.permits e.hierarchy m = false ∧
      cause = .illegalAccess (m.signature e.hierarchy)) ∨
    ∃ k ∈ e.calls tokens v s, (k.effect e.hierarchy).1 = .error cause := by
  induction tokens, v, s using walk_induction (e := e) with
  | nil v s => rw [run_nil] at ho; cases ho
  | refused token rest v s halt t hn =>
    rw [run_of_next_error hn] at ho
    obtain rfl := Except.error.inj ho
    exact .inl (illegalAccess_of_next hn)
  | failed token rest v s k halt t hn hf =>
    rw [run_of_finish_error hn hf] at ho
    obtain rfl := Except.error.inj ho
    refine .inr ⟨k, by simp [calls_of_finish_error hn hf], ?_⟩
    -- The call is not forbidden, and null as a result is told apart from failures.
    rcases Call.finish_eq_error_iff.1 hf with
      ⟨fault, hfault, -⟩ | ⟨-, ⟨fault, heffect, hhalt⟩ | ⟨-, -, hhalt⟩⟩
    · rw [obstacle?_of_next hr ht hn] at hfault
      cases hfault
    · cases hhalt
      rw [heffect]
    · cases hhalt
  | made token rest v s k w t hn hf ih =>
    rw [run_of_finish_ok hn hf] at ho
    refine (ih ho).imp_right ?_
    rintro ⟨j, hj, hcause⟩
    exact ⟨j, by simp [calls_of_finish_ok hn hf, hj], hcause⟩

/-- Every call of a walk has as many arguments as its method has parameters, each of them null or
    of the class of its parameter, and a receiver of the class that declares the method. So what
    goes wrong in a call goes wrong in the body of its method; and a walk never ends with a failure
    that the method finds in what it is called with. -/
theorem calls_fit (e : Engine) (server? : Option (Ref .server))
    (hr : e.registry = .shipped server?) (ht : ∀ c, ∀ m ∈ e.table.declared c, m.declaring = c)
    (tokens : List String) (v : Value) (s : Store) :
    (∀ k ∈ e.calls tokens v s,
      k.args.length = k.method.params.length ∧
      e.hierarchy.isA k.receiver.class_ k.method.declaring ∧
      List.Forall₂ e.hierarchy.Fits k.method.params k.args ∧
      ∀ fault t, k.result e.hierarchy = (.error fault, t) →
        ∃ cause, fault = .raised (k.method.signature e.hierarchy) cause ∧
          k.effect e.hierarchy = (.error cause, t)) ∧
    ∀ token cause, (e.run tokens v s).outcome = .error (.raised token cause) →
      (∃ m : Method, e.access.permits e.hierarchy m = false ∧
        cause = .illegalAccess (m.signature e.hierarchy)) ∨
      ∃ k ∈ e.calls tokens v s, (k.effect e.hierarchy).1 = .error cause := by
  refine ⟨fun k hk => ?_, fun token cause ho => cause_of_run hr ht ho⟩
  have ho := obstacle?_of_mem_calls hr ht hk
  obtain ⟨hrecv, hargs⟩ := Method.obstacle?_eq_none_iff.1 ho
  refine ⟨hargs.length_eq.symm, hrecv, hargs, fun fault t hresult => ?_⟩
  rw [Call.result_eq ho] at hresult
  split at hresult
  · rename_i heffect
    cases hresult
    exact ⟨_, rfl, heffect⟩
  · cases hresult

end Engine

/-! ## The catalog -/

theorem Builtin.declaring_of_mem_methods {b : Builtin} :
    ∀ m ∈ b.methods, m.declaring = .builtin b := by
  cases b with
  | scalar k => cases k <;> decide
  | array k => exact fun _ hm => by cases hm
  | _ => decide

/-- Every class of the catalog declares its methods in its own name. -/
theorem ClassTable.declaring_of_mem_builtins (c : Class) :
    ∀ m ∈ ClassTable.builtins.declared c, m.declaring = c := by
  cases c with
  | builtin b => exact Builtin.declaring_of_mem_methods
  | defined n => exact fun _ hm => by cases hm

/-- A call with null where a string is expected is made. What it fails for is found by the body. -/
theorem Engine.calls_fit_contains :
    let e := overPlain .exportedOnly
    let tokens := ["contains(String)", Registry.nullToken]
    let v : Value := some (.value 0 (.scalar .string "chain"))
    (∀ c, ∀ m ∈ e.table.declared c, m.declaring = c) ∧
      (e.run tokens v .empty).outcome = .error (.raised "contains(String)" (.nullArgument 0)) ∧
      ∃ k ∈ e.calls tokens v .empty, k.args.length = k.method.params.length ∧
        List.Forall₂ e.hierarchy.Fits k.method.params k.args ∧
        (k.effect e.hierarchy).1 = .error (.nullArgument 0) := by
  intro e tokens v
  have hrun : (e.run tokens v .empty).outcome =
      .error (.raised "contains(String)" (.nullArgument 0)) := by
    cbv
  have htable := ClassTable.declaring_of_mem_builtins
  obtain ⟨hcalls, hfailed⟩ := calls_fit e none rfl htable tokens v .empty
  obtain ⟨m, -, hcause⟩ | ⟨k, hk, heffect⟩ := hfailed _ _ hrun
  · cases hcause
  · obtain ⟨hlength, -, hargs, -⟩ := hcalls k hk
    exact ⟨htable, hrun, k, hk, hlength, hargs, heffect⟩

end Chainwalk
