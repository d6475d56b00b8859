import Mathlib
import Chainwalk.Chain
import Chainwalk.Conversion.Plain
import Chainwalk.Method.Catalog
import Chainwalk.Proofs.Realm.Along

/-!
# The calls of a walk

A walk goes from call to call. For each token it first finds the method, reads the literals
and asks for access, which does nothing but what the handlers do that read the literals
(`Engine.next`); then it makes the call (`Call.finish`).

* `Engine.run_cons`: a walk, one call at a time; later proofs use it in place of the
  definition;
* `Engine.calls`: the calls that a walk makes, in order;
* `Engine.Walks`: part of a walk, from tokens to the tokens that it leaves;
* `Engine.run_congr`: walks of two engines that make the same of each call are the same.
-/

namespace Chainwalk

/-! ## Literals -/

namespace Registry

variable (r : Registry) (h : Hierarchy) (sender : Option Sender)

@[simp] theorem attemptEach_nil_left (ls : List String) (s : Store) :
    r.attemptEach h sender [] ls s = (.ok [], s) := by
  cases ls <;> rfl

@[simp] theorem attemptEach_nil_right (cs : List Class) (s : Store) :
    r.attemptEach h sender cs [] s = (.ok [], s) := by
  cases cs <;> rfl

theorem attemptEach_cons (c : Class) (cs : List Class) (l : String) (ls : List String)
    (s : Store) :
    r.attemptEach h sender (c :: cs) (l :: ls) s =
      match r.attempt h sender c l s with
      | (.error cause, t) => (.error cause, t)
      | (.ok v, t) =>
        match r.attemptEach h sender cs ls t with
        | (.error cause, u) => (.error cause, u)
        | (.ok vs, u) => (.ok (v :: vs), u) := by
  rw [attemptEach, bind_apply]
  rcases r.attempt h sender c l s with ⟨cause | v, t⟩
  · rfl
  · dsimp only
    rw [bind_apply]
    rcases r.attemptEach h sender cs ls t with ⟨cause | vs, u⟩ <;> rfl

/-- Reading literals one by one goes along whatever reading each of them goes along. -/
theorem along_attemptEach {R : Store → Store → Prop} [IsPreorder Store R]
    {r : Registry} {h : Hierarchy} {sender : Option Sender}
    (hread : ∀ c l, Along R (r.attempt h sender c l)) (cs : List Class) (ls : List String) :
    Along R (r.attemptEach h sender cs ls) := by
  induction cs generalizing ls with
  | nil => exact .pure []
  | cons c cs ih =>
    cases ls with
    | nil => exact .pure []
    | cons l ls => exact (hread c l).bind fun v => (ih ls).bind fun vs => .pure _

/-- Each literal gives one value, up to the shorter of the two lists. -/
theorem length_of_attemptEach {cs : List Class} {ls : List String} {s t : Store}
    {vs : List Value} (hr : r.attemptEach h sender cs ls s = (.ok vs, t)) :
    vs.length = min cs.length ls.length := by
  induction cs generalizing ls s t vs with
  | nil =>
    rw [attemptEach_nil_left] at hr
    cases hr
    simp
  | cons c cs ih =>
    cases ls with
    | nil =>
      rw [attemptEach_nil_right] at hr
      cases hr
      simp
    | cons l ls =>
      rw [attemptEach_cons] at hr
      split at hr
      · cases hr
      · split at hr
        · cases hr
        · rename_i hrest
          cases hr
          simp [ih hrest]

/-- Classes and literals without a partner do not count. -/
theorem attemptMany_take (cs : List Class) (ls : List String) (s : Store) :
    r.attemptMany h sender (cs.take (ls.take cs.length).length) (ls.take cs.length) s =
      r.attemptEach h sender cs ls s := by
  rw [attemptMany, if_neg (by simp)]
  induction cs generalizing ls s with
  | nil => simp
  | cons c cs ih =>
    cases ls with
    | nil => simp
    | cons l ls =>
      simp only [List.length_cons, List.take_succ_cons, attemptEach_cons, ih]

/-- Literals beyond the last class do not count. -/
theorem attemptEach_append_of_le {cs : List Class} {ls : List String}
    (hle : cs.length ≤ ls.length) (more : List String) (s : Store) :
    r.attemptEach h sender cs (ls ++ more) s = r.attemptEach h sender cs ls s := by
  induction cs generalizing ls s with
  | nil => simp
  | cons c cs ih =>
    cases ls with
    | nil => simp at hle
    | cons l ls =>
      simp only [List.cons_append, attemptEach_cons, ih (Nat.le_of_succ_le_succ hle)]

/-- The first literal that does not convert decides, whatever comes after. -/
theorem attemptEach_append_of_error {cs : List Class} {ls : List String} {s t : Store}
    {cause : ConversionFault} (hr : r.attemptEach h sender cs ls s = (.error cause, t))
    (more : List String) :
    r.attemptEach h sender cs (ls ++ more) s = (.error cause, t) := by
  induction cs generalizing ls s with
  | nil =>
    rw [attemptEach_nil_left] at hr
    cases hr
  | cons c cs ih =>
    cases ls with
    | nil =>
      rw [attemptEach_nil_right] at hr
      cases hr
    | cons l ls =>
      rw [attemptEach_cons] at hr
      rw [List.cons_append, attemptEach_cons]
      split at hr
      · exact hr
      · split at hr
        · rename_i hrest
          cases hr
          rw [ih hrest]
        · cases hr

end Registry

/-! ## Methods of a class -/

namespace MethodIndex

/-- What is in the index of a class is declared by a class of its linearization. -/
theorem exists_declared_of_get? {t : ClassTable} {c : Class} {token : String} {m : Method}
    (hm : (build t c).get? token = some m) :
    ∃ d ∈ t.hierarchy.linearization c, m ∈ t.declared d := by
  have hentries (methods : List Method) (entries : List (String × Method)) :
      ∀ e ∈ methods.foldl (fun entries m => insert entries (m.signature t.hierarchy) m) entries,
        e.2 ∈ methods ∨ e ∈ entries := by
    induction methods generalizing entries with
    | nil => exact fun e he => .inr he
    | cons m methods ih =>
      intro e he
      rcases ih _ e he with hm | he
      · exact .inl (List.mem_cons_of_mem _ hm)
      · rcases List.mem_cons.1 he with rfl | he
        · exact .inl List.mem_cons_self
        · exact .inr (List.mem_filter.1 he).1
  obtain ⟨l₁, l₂, heq, -⟩ := List.lookup_eq_some_iff.1 hm
  have hmem : (token, m) ∈ (build t c).entries := by
    rw [heq]
    simp
  rcases hentries _ _ _ hmem with hm | hm
  · obtain ⟨d, hd, hm⟩ := List.mem_flatMap.1 hm
    exact ⟨d, List.mem_reverse.1 hd, hm⟩
  · cases hm

end MethodIndex

/-! ## One call -/

namespace Method

variable {h : Hierarchy} {m : Method} {recv : Object} {args : List Value}

/-- A call that is forbidden does not fail in the way of a body. -/
theorem ne_raised_of_obstacle? {fault : Fault} (ho : m.obstacle? h recv args = some fault)
    (signature : String) (cause : Fault) : fault ≠ .raised signature cause := by
  rintro rfl
  rw [obstacle?] at ho
  split at ho
  · cases ho
  · split at ho
    · cases ho
    · simp at ho

/-- A call, by what the body makes of it. -/
theorem invoke_eq (s : Store) :
    m.invoke h recv args s =
      match m.obstacle? h recv args with
      | some fault => (.error fault, s)
      | none =>
        match m.body h recv args s with
        | (.error fault, t) => (.error (.raised (m.signature h) fault), t)
        | (.ok v, t) => (.ok v, t) := by
  rw [invoke]
  cases m.obstacle? h recv args with
  | some fault => rfl
  | none =>
    simp only [tryCatch, tryCatchThe, MonadExceptOf.tryCatch, ExceptT.tryCatch, ExceptT.mk, bind,
      StateT.bind, pure]
    rcases m.body h recv args s with ⟨fault | v, t⟩ <;> rfl

end Method

/-- A call: a method with its receiver and its arguments, and the store that it is made in. -/
structure Call where
  method : Method
  receiver : Object
  args : List Value
  store : Store

namespace Call

variable (h : Hierarchy) (k : Call)

/-- What the method makes of the call. -/
def result : Except Fault Value × Store := k.method.invoke h k.receiver k.args k.store

/-- What the body of the method makes of the call. -/
def effect : Except Fault Value × Store := k.method.body h k.receiver k.args k.store

/-- What a walk makes of the call: a fault of the body stands for itself, and null is
    no result of a method that has one. -/
def finish (token : String) : Except Halt Value × Store :=
  match k.result h with
  | (.error (.raised _ cause), s) => (.error (.raised token cause), s)
  | (.error cause, s) => (.error (.raised token cause), s)
  | (.ok none, s) =>
    (if k.method.returns.isSome then .error (.returnedNull token) else .ok none, s)
  | (.ok (some o), s) => (.ok (some o), s)

/-- Whether the body of the method runs: neither the receiver nor the arguments forbid it. -/
def runs : Bool := (k.method.obstacle? h k.receiver k.args).isNone

variable {h k}

/-- What a walk makes of a call, by what the body makes of it. -/
theorem finish_eq (token : String) :
    k.finish h token =
      match k.method.obstacle? h k.receiver k.args with
      | some fault => (.error (.raised token fault), k.store)
      | none =>
        match k.effect h with
        | (.error fault, s) => (.error (.raised token fault), s)
        | (.ok none, s) =>
          (if k.method.returns.isSome then .error (.returnedNull token) else .ok none, s)
        | (.ok (some o), s) => (.ok (some o), s) := by
  rw [finish, result, Method.invoke_eq, effect]
  cases ho : k.method.obstacle? h k.receiver k.args with
  | none =>
    dsimp only
    rcases k.method.body h k.receiver k.args k.store with ⟨fault | _ | o, s⟩ <;> rfl
  | some fault =>
    have hfault := Method.ne_raised_of_obstacle? ho
    cases fault <;> first | rfl | exact absurd rfl (hfault _ _)

/-- When a walk goes on after a call. -/
theorem finish_eq_ok_iff {token : String} {w : Value} {t : Store} :
    k.finish h token = (.ok w, t) ↔
      k.method.obstacle? h k.receiver k.args = none ∧ k.effect h = (.ok w, t) ∧
      (k.method.returns.isSome → w.isSome) := by
  rw [finish_eq]
  cases k.method.obstacle? h k.receiver k.args with
  | some fault => simp
  | none =>
    rcases k.effect h with ⟨fault | _ | o, s⟩
    · simp
    · cases k.method.returns <;> simp +contextual
    · simp only [Prod.mk.injEq, Except.ok.injEq, true_and]
      constructor
      · rintro ⟨rfl, rfl⟩
        exact ⟨⟨rfl, rfl⟩, fun _ => rfl⟩
      · exact fun hw => hw.1

/-- How a call ends a walk: it is forbidden, its body fails, or the body gives null where
    there must be a result. -/
theorem finish_eq_error_iff {token : String} {halt : Halt} {t : Store} :
    k.finish h token = (.error halt, t) ↔
      (∃ fault, k.method.obstacle? h k.receiver k.args = some fault ∧
        .raised token fault = halt ∧ k.store = t) ∨
      k.method.obstacle? h k.receiver k.args = none ∧
        ((∃ fault, k.effect h = (.error fault, t) ∧ .raised token fault = halt) ∨
        k.effect h = (.ok none, t) ∧ k.method.returns.isSome ∧ .returnedNull token = halt) := by
  rw [finish_eq]
  cases k.method.obstacle? h k.receiver k.args with
  | some fault => simp
  | none =>
    rcases k.effect h with ⟨fault | _ | o, s⟩
    · simp only [Prod.mk.injEq, Except.error.injEq, reduceCtorEq, false_and, exists_false,
        false_or, or_false, true_and]
      constructor
      · rintro ⟨hhalt, hs⟩
        exact ⟨fault, ⟨rfl, hs⟩, hhalt⟩
      · rintro ⟨_, ⟨rfl, hs⟩, hhalt⟩
        exact ⟨hhalt, hs⟩
    · cases k.method.returns <;> simp [and_comm]
    · simp

end Call

namespace Engine

variable (e : Engine)

/-- The arguments of a method from the literals at the front of the tokens, or why there are
    none, with the store after reading them. -/
def collect (token : String) (m : Method) (rest : List String) (s : Store) :
    Except Halt (List Value) × Store :=
  match e.registry.attemptEach e.hierarchy e.sender m.params rest s with
  | (.error cause, t) => (.error (.badArgument token cause), t)
  | (.ok args, t) =>
    if args.length = m.params.length then (.ok args, t)
    else
      (.error (.tooFewArguments token m.params.length (m.returnName e.hierarchy) args.length), t)

/-- The call of a method that a token asks for, or why it is not made and the store that is
    left. -/
def prepare (token : String) (m : Method) (rest : List String) (recv : Object) (s : Store) :
    Except (Halt × Store) Call :=
  match e.collect token m rest s with
  | (.error halt, t) => .error (halt, t)
  | (.ok args, t) =>
    if e.access.permits e.hierarchy m then .ok ⟨m, recv, args, t⟩
    else .error (.raised token (.illegalAccess (m.signature e.hierarchy)), t)

/-- The call that a token asks for at the value at hand, or why it is not made and the store
    that is left. -/
def next (token : String) (rest : List String) : Value → Store → Except (Halt × Store) Call
  | none, s => .error (.callOnNull token, s)
  | some recv, s =>
    match (MethodIndex.build e.table recv.class_).get? token with
    | none => .error (.unknownMethod token (e.hierarchy.name recv.class_), s)
    | some m => e.prepare token m rest recv s

theorem segment_eq (token : String) (m : Method) (rest : List String) (recv : Object)
    (s : Store) :
    e.segment token m (rest.take m.params.length) recv s =
      match e.prepare token m rest recv s with
      | .error (halt, t) => (.error halt, t)
      | .ok k => k.finish e.hierarchy token := by
  simp only [segment, Registry.attemptMany_take, prepare, collect]
  rcases e.registry.attemptEach e.hierarchy e.sender m.params rest s with ⟨cause | args, t⟩
  · rfl
  · by_cases hlength : args.length = m.params.length
    · cases hp : e.access.permits e.hierarchy m
      · simp [hlength]
      · simp only [hlength, ne_eq, not_true_eq_false, ↓reduceIte, Bool.not_true,
          Bool.false_eq_true, Call.finish, Call.result]
        rcases m.invoke e.hierarchy recv args t with ⟨fault | _ | o, u⟩
        · cases fault <;> rfl
        · rfl
        · rfl
    · simp [hlength]

/-- The classes whose methods are looked up for the value at hand. -/
def asked (v : Value) : List Class := (v.map Object.class_).toList

@[simp] theorem run_nil (v : Value) (s : Store) : e.run [] v s = ⟨.ok v, s, []⟩ := by
  rw [run]

/-- A walk, one call at a time. -/
theorem run_cons (token : String) (rest : List String) (v : Value) (s : Store) :
    e.run (token :: rest) v s =
      match e.next token rest v s with
      | .error (halt, t) => ⟨.error halt, t, asked v⟩
      | .ok k =>
        match k.finish e.hierarchy token with
        | (.error halt, t) => ⟨.error halt, t, asked v⟩
        | (.ok w, t) =>
          let r := e.run (rest.drop k.method.params.length) w t
          { r with consulted := asked v ++ r.consulted } := by
  cases v with
  | none => simp [run, next, asked]
  | some recv =>
    rw [run]
    simp only [next]
    cases (MethodIndex.build e.table recv.class_).get? token with
    | none => rfl
    | some m =>
      dsimp only
      rw [segment_eq]
      cases hk : e.prepare token m rest recv s with
      | error stop => rfl
      | ok k =>
        -- The call that is prepared is one of the method that was looked up.
        have hm : k.method = m := by
          simp only [prepare] at hk
          split at hk
          · cases hk
          · split at hk
            · cases hk; rfl
            · cases hk
        dsimp only
        rw [hm]
        rcases k.finish e.hierarchy token with ⟨_ | w, t⟩ <;> rfl

/-! ## The calls of a walk -/

/-- The calls that a walk makes, in order. -/
def calls (tokens : List String) (v : Value) (s : Store) : List Call :=
  match tokens with
  | [] => []
  | token :: rest =>
    match e.next token rest v s with
    | .error _ => []
    | .ok k =>
      k ::
        match k.finish e.hierarchy token with
        | (.error _, _) => []
        | (.ok w, t) => calls (rest.drop k.method.params.length) w t
termination_by tokens.length
decreasing_by simp only [List.length_cons, List.length_drop]; omega

@[simp] theorem calls_nil (v : Value) (s : Store) : e.calls [] v s = [] := by
  rw [calls]

/-- The calls of a walk whose bodies run. -/
def bodies (tokens : List String) (v : Value) (s : Store) : List Call :=
  (e.calls tokens v s).filter (Call.runs e.hierarchy)

/-- Part of a walk: the calls from the tokens, the value at hand and the store on one side
    to those on the other. -/
inductive Walks : List String → Value → Store → List Call → List String → Value → Store → Prop
  | refl {tokens : List String} {v : Value} {s : Store} : Walks tokens v s [] tokens v s
  | step {token : String} {rest left : List String} {v w x : Value} {s t u : Store} {k : Call}
      {ks : List Call} : e.next token rest v s = .ok k →
      k.finish e.hierarchy token = (.ok w, t) →
      Walks (rest.drop k.method.params.length) w t ks left x u →
      Walks (token :: rest) v s (k :: ks) left x u

/-- What walks over the built-in classes are made with when there is no sender and only plain
    values are read. -/
def overPlain (access : AccessPolicy) : Engine := ⟨.builtins, .plain, access, none⟩

/-- The classes whose methods are looked up for some calls. -/
def askedBy (ks : List Call) : List Class := ks.map (·.receiver.class_)

variable {e}

/-- When a call is made: the value at hand has the method, the literals convert, there are
    enough of them, and access is granted. -/
theorem next_eq_ok_iff {token : String} {rest : List String} {v : Value} {s : Store} {k : Call} :
    e.next token rest v s = .ok k ↔
      v = some k.receiver ∧
      (MethodIndex.build e.table k.receiver.class_).get? token = some k.method ∧
      e.registry.attemptEach e.hierarchy e.sender k.method.params rest s =
        (.ok k.args, k.store) ∧
      k.args.length = k.method.params.length ∧ e.access.permits e.hierarchy k.method := by
  obtain ⟨m, recv, args, t⟩ := k
  cases v with
  | none => simp [next]
  | some r =>
    rw [next, Option.some.injEq]
    constructor
    · intro hk
      split at hk
      · cases hk
      · rename_i hm
        rw [prepare, collect] at hk
        split at hk <;> rename_i hc
        · cases hk
        · split at hc
          · cases hc
          · rename_i hr
            split at hc <;> cases hc
            split at hk <;> cases hk
            exact ⟨rfl, hm, hr, ‹_›, ‹_›⟩
    · rintro ⟨rfl, hm, hr, hlength, hp⟩
      dsimp only at hm hr hlength hp
      rw [hm]
      dsimp only
      rw [prepare, collect, hr]
      simp only [hlength, hp, if_true]

/-- A call is made on the value at hand. -/
theorem receiver_of_next {token : String} {rest : List String} {v : Value} {s : Store} {k : Call}
    (hk : e.next token rest v s = .ok k) : v = some k.receiver :=
  (next_eq_ok_iff.1 hk).1

/-- Where there are only the built-in classes, a call is of a method of theirs. -/
theorem exists_mem_methods_of_next (he : e.table = .builtins) {token : String} {rest : List String}
    {v : Value} {s : Store} {k : Call} (hk : e.next token rest v s = .ok k) :
    ∃ b : Builtin, k.method ∈ b.methods := by
  obtain ⟨-, hm, -⟩ := next_eq_ok_iff.1 hk
  obtain ⟨d, -, hd⟩ := MethodIndex.exists_declared_of_get? hm
  rw [he] at hd
  rcases d with b | n
  · exact ⟨b, hd⟩
  · -- The catalog has no other classes.
    exact absurd hd List.not_mem_nil

/-- A call takes no more literals than there are. -/
theorem length_params_le_of_next {token : String} {rest : List String} {v : Value} {s : Store}
    {k : Call} (hk : e.next token rest v s = .ok k) : k.method.params.length ≤ rest.length := by
  obtain ⟨-, -, hr, hlength, -⟩ := next_eq_ok_iff.1 hk
  have := Registry.length_of_attemptEach _ _ _ hr
  omega

section

variable {token : String} {rest : List String} {v w : Value} {s t : Store} {k : Call}
  {halt : Halt}

theorem run_of_next_error (hk : e.next token rest v s = .error (halt, t)) :
    e.run (token :: rest) v s = ⟨.error halt, t, asked v⟩ := by
  rw [run_cons, hk]

theorem run_of_finish_error (hk : e.next token rest v s = .ok k)
    (hf : k.finish e.hierarchy token = (.error halt, t)) :
    e.run (token :: rest) v s = ⟨.error halt, t, asked v⟩ := by
  rw [run_cons, hk]
  dsimp only
  rw [hf]

theorem run_of_finish_ok (hk : e.next token rest v s = .ok k)
    (hf : k.finish e.hierarchy token = (.ok w, t)) :
    e.run (token :: rest) v s =
      let r := e.run (rest.drop k.method.params.length) w t
      { r with consulted := asked v ++ r.consulted } := by
  rw [run_cons, hk]
  dsimp only
  rw [hf]

theorem calls_of_next_error (hk : e.next token rest v s = .error (halt, t)) :
    e.calls (token :: rest) v s = [] := by
  rw [calls, hk]

theorem calls_of_finish_error (hk : e.next token rest v s = .ok k)
    (hf : k.finish e.hierarchy token = (.error halt, t)) :
    e.calls (token :: rest) v s = [k] := by
  rw [calls, hk]
  dsimp only
  rw [hf]

theorem calls_of_finish_ok (hk : e.next token rest v s = .ok k)
    (hf : k.finish e.hierarchy token = (.ok w, t)) :
    e.calls (token :: rest) v s = k :: e.calls (rest.drop k.method.params.length) w t := by
  rw [calls, hk]
  dsimp only
  rw [hf]

end

/-- Induction along a walk: it is over, or its next call is not made, or that call ends the
    walk, or the walk goes on from where the call leads. -/
@[elab_as_elim]
theorem walk_induction {motive : List String → Value → Store → Prop}
    (nil : ∀ v s, motive [] v s)
    (refused : ∀ token rest v s halt t, e.next token rest v s = .error (halt, t) →
      motive (token :: rest) v s)
    (failed : ∀ token rest v s k halt t, e.next token rest v s = .ok k →
      k.finish e.hierarchy token = (.error halt, t) → motive (token :: rest) v s)
    (made : ∀ token rest v s k w t, e.next token rest v s = .ok k →
      k.finish e.hierarchy token = (.ok w, t) →
      motive (rest.drop k.method.params.length) w t → motive (token :: rest) v s)
    (tokens : List String) (v : Value) (s : Store) : motive tokens v s := by
  generalize hn : tokens.length = n
  induction n using Nat.strongRecOn generalizing tokens v s with
  | _ n ih =>
    cases tokens with
    | nil => exact nil v s
    | cons token rest =>
      rcases hk : e.next token rest v s with ⟨halt, t⟩ | k
      · exact refused _ _ _ _ _ _ hk
      · rcases hf : k.finish e.hierarchy token with ⟨halt | w, t⟩
        · exact failed _ _ _ _ _ _ _ hk hf
        · -- The signature at least is gone, so there are fewer tokens left.
          refine made _ _ _ _ _ _ _ hk hf (ih _ ?_ _ _ _ rfl)
          rw [← hn, List.length_cons, List.length_drop]
          omega

/-- Walks of two engines that make the same of each call are the same. -/
theorem run_congr {e' : Engine} (hh : e'.hierarchy = e.hierarchy)
    (hnext : ∀ token rest v s, e'.next token rest v s = e.next token rest v s)
    (tokens : List String) (v : Value) (s : Store) : e'.run tokens v s = e.run tokens v s := by
  induction tokens, v, s using e.walk_induction with
  | nil => rw [run_nil, run_nil]
  | refused _ _ _ _ _ _ hk => rw [run_of_next_error hk, run_of_next_error ((hnext ..).trans hk)]
  | failed _ _ _ _ _ _ _ hk hf =>
    rw [run_of_finish_error hk hf, run_of_finish_error ((hnext ..).trans hk) (hh ▸ hf)]
  | made _ _ _ _ _ _ _ hk hf ih =>
    rw [run_of_finish_ok hk hf, run_of_finish_ok ((hnext ..).trans hk) (hh ▸ hf), ih]

end Engine

end Chainwalk
