import Chainwalk.Proofs.Chain.Reading

/-!
# Walks under two policies

A policy decides about one call at a time, before the call is made and after all else has been
found in order: its literals have been read. So two walks of the same tokens under two policies go
in step until a call comes that only one of them permits.

* `Engine.permits_of_mem_calls`: no call is made that the policy does not permit;
* `Engine.run_withBodies`: what the bodies of the other methods would do does not matter;
* `Engine.run_under`: a walk under a policy is that under a more generous one, or ends at the
  first call that only the latter permits, where both have come by the same calls.
-/

namespace Chainwalk

namespace AccessPolicy

/-- A list of classes permits what is exported, and what the listed classes declare. -/
theorem permits_allowing_iff (h : Hierarchy) (paths : List String) (m : Method) :
    (allowing paths).permits h m ↔ (m.visibility = .internal → h.path m.declaring ∈ paths) := by
  cases hv : m.visibility <;> simp [permits, hv]

end AccessPolicy

/-! ## Other bodies -/

namespace Method

/-- The method with another body. -/
def withBody (m : Method) (f : Method → Body) : Method := { m with body := f m }

end Method

namespace ClassTable

/-- The table with other bodies for its methods. -/
def withBodies (t : ClassTable) (f : Method → Body) : ClassTable :=
  ⟨t.hierarchy, fun c => (t.declared c).map (·.withBody f)⟩

end ClassTable

namespace MethodIndex

variable (f : Method → Body)

theorem insert_map (entries : List (String × Method)) (signature : String) (m : Method) :
    insert (entries.map fun e => (e.1, e.2.withBody f)) signature (m.withBody f) =
      (insert entries signature m).map fun e => (e.1, e.2.withBody f) := by
  rw [insert, insert, List.filter_map, List.map_cons]
  rfl

/-- Other bodies do not change which methods there are. -/
theorem entries_withBodies (t : ClassTable) (c : Class) :
    (build (t.withBodies f) c).entries =
      (build t c).entries.map fun e => (e.1, e.2.withBody f) := by
  simp only [build, ClassTable.withBodies]
  generalize (t.hierarchy.linearization c).reverse = classes
  rw [show classes.flatMap (fun c => (t.declared c).map (·.withBody f)) =
    (classes.flatMap t.declared).map (·.withBody f) by rw [List.map_flatMap]]
  generalize classes.flatMap t.declared = methods
  -- Methods go into the index one by one, so it may have any entries to begin with.
  suffices ∀ entries : List (String × Method),
      (methods.map (·.withBody f)).foldl
        (fun entries m => insert entries (m.signature t.hierarchy) m)
        (entries.map fun e => (e.1, e.2.withBody f)) =
      (methods.foldl (fun entries m => insert entries (m.signature t.hierarchy) m) entries).map
        fun e => (e.1, e.2.withBody f) from this []
  induction methods with
  | nil => exact fun _ => rfl
  | cons m methods ih =>
    intro entries
    rw [List.map_cons, List.foldl_cons, List.foldl_cons, ← ih]
    exact congrArg (fun entries => (methods.map (·.withBody f)).foldl _ entries)
      (insert_map f entries _ m)

theorem get?_withBodies (t : ClassTable) (c : Class) (token : String) :
    (build (t.withBodies f) c).get? token = ((build t c).get? token).map (·.withBody f) := by
  rw [get?, get?, entries_withBodies]
  induction (build t c).entries with
  | nil => rfl
  | cons entry entries ih =>
    rw [List.map_cons, List.lookup_cons, List.lookup_cons, ih]
    cases token == entry.1 <;> rfl

end MethodIndex

namespace Engine

variable (e : Engine)

/-- The engine under another policy. -/
def under (p : AccessPolicy) : Engine := { e with access := p }

/-- The engine over methods with other bodies. -/
def withBodies (f : Method → Body) : Engine := { e with table := e.table.withBodies f }

variable {e}

/-- No call is made that the policy does not permit. -/
theorem permits_of_mem_calls {tokens : List String} {v : Value} {s : Store} {k : Call}
    (hk : k ∈ e.calls tokens v s) : e.access.permits e.hierarchy k.method := by
  induction tokens, v, s using e.walk_induction with
  | nil => simp at hk
  | refused _ _ _ _ _ _ hn =>
    rw [calls_of_next_error hn] at hk
    cases hk
  | failed _ _ _ _ _ _ _ hn hf =>
    rw [calls_of_finish_error hn hf, List.mem_singleton] at hk
    exact hk ▸ (next_eq_ok_iff.1 hn).2.2.2.2
  | made _ _ _ _ _ _ _ hn hf ih =>
    rw [calls_of_finish_ok hn hf] at hk
    rcases List.mem_cons.1 hk with rfl | hk
    · exact (next_eq_ok_iff.1 hn).2.2.2.2
    · exact ih hk

theorem prepare_withBodies (f : Method → Body) (token : String) (m : Method)
    (rest : List String) (recv : Object) (s : Store) :
    (e.withBodies f).prepare token (m.withBody f) rest recv s =
      match e.collect token m rest s with
      | (.error halt, t) => .error (halt, t)
      | (.ok args, t) =>
        if e.access.permits e.hierarchy m then .ok ⟨m.withBody f, recv, args, t⟩
        else .error (.raised token (.illegalAccess (m.signature e.hierarchy)), t) := rfl

/-- What the bodies of methods would do that are not permitted does not matter. -/
theorem run_withBodies {f : Method → Body}
    (hf : ∀ m, e.access.permits e.hierarchy m → f m = m.body)
    (tokens : List String) (v : Value) (s : Store) :
    (e.withBodies f).run tokens v s = e.run tokens v s := by
  refine @run_congr e (e.withBodies f) rfl (fun token rest v s => ?_) tokens v s
  cases v with
  | none => rfl
  | some recv =>
    have hget := MethodIndex.get?_withBodies f e.table recv.class_ token
    cases hm : (MethodIndex.build e.table recv.class_).get? token with
    | none =>
      rw [hm] at hget
      simp only [next, withBodies, hget, hm, Option.map_none]
      rfl
    | some m =>
      rw [hm] at hget
      simp only [next, withBodies, hget, hm, Option.map_some]
      change (e.withBodies f).prepare token (m.withBody f) rest recv s = _
      rw [prepare_withBodies, prepare]
      -- Only a method that is permitted goes into the call, and that one keeps its body.
      cases hp : e.access.permits e.hierarchy m
      · rfl
      · have hkept : m.withBody f = m := by rw [Method.withBody, hf m hp]
        exact hkept.symm ▸ rfl

/-! ## Two policies -/

theorem prepare_under (p : AccessPolicy) (token : String) (m : Method) (rest : List String)
    (recv : Object) (s : Store) :
    (e.under p).prepare token m rest recv s =
      match e.collect token m rest s with
      | (.error halt, t) => .error (halt, t)
      | (.ok args, t) =>
        if p.permits e.hierarchy m then .ok ⟨m, recv, args, t⟩
        else .error (.raised token (.illegalAccess (m.signature e.hierarchy)), t) := rfl

/-- The next call under a policy is that under a more generous one, or it is refused and only
    the latter permits it. Its literals have been read by then. -/
theorem next_under {p q : AccessPolicy}
    (hpq : ∀ m, p.permits e.hierarchy m → q.permits e.hierarchy m) (token : String)
    (rest : List String) (v : Value) (s : Store) :
    (e.under p).next token rest v s = (e.under q).next token rest v s ∨
      ∃ k, (e.under q).next token rest v s = .ok k ∧ p.permits e.hierarchy k.method = false ∧
        (e.under p).next token rest v s =
          .error (.raised token (.illegalAccess (k.method.signature e.hierarchy)), k.store) := by
  cases v with
  | none => exact .inl rfl
  | some recv =>
    cases hm : (MethodIndex.build e.table recv.class_).get? token with
    | none =>
      left
      simp only [next, under, hm]
      rfl
    | some m =>
      simp only [next, under, hm]
      change (e.under p).prepare token m rest recv s = (e.under q).prepare token m rest recv s ∨
        ∃ k, (e.under q).prepare token m rest recv s = .ok k ∧ _ ∧
          (e.under p).prepare token m rest recv s = _
      simp only [prepare_under]
      rcases e.collect token m rest s with ⟨halt | args, t⟩
      · exact .inl rfl
      · cases hp : p.permits e.hierarchy m
        · cases hq : q.permits e.hierarchy m
          · exact .inl rfl
          · exact .inr ⟨_, rfl, hp, rfl⟩
        · rw [hpq m hp]
          exact .inl rfl

/-- What literals are read as does not depend on the policy. -/
theorem readsTo_of_next_under {q : AccessPolicy} {token : String} {rest : List String} {v : Value}
    {s : Store} {k : Call} (hk : (e.under q).next token rest v s = .ok k) : e.ReadsTo s k.store :=
  have hreads : (e.under q).ReadsTo s k.store := readsTo_of_next hk
  hreads

/-- A walk under a policy is that under a more generous one, or ends with a refusal at a call
    that only the latter permits. Both have come there by the same calls and with the same
    store, from which they have read the literals of that call, and nothing more is done to it. -/
theorem run_under_or {p q : AccessPolicy}
    (hpq : ∀ m, p.permits e.hierarchy m → q.permits e.hierarchy m) (tokens : List String)
    (v : Value) (s : Store) :
    (e.under p).run tokens v s = (e.under q).run tokens v s ∨
      ∃ ks token rest k t, (e.under p).Walks tokens v s ks (token :: rest) (some k.receiver) t ∧
        (e.under q).Walks tokens v s ks (token :: rest) (some k.receiver) t ∧
        (e.under q).next token rest (some k.receiver) t = .ok k ∧
        p.permits e.hierarchy k.method = false ∧
        (e.under p).run tokens v s =
          ⟨.error (.raised token (.illegalAccess (k.method.signature e.hierarchy))), k.store,
            askedBy ks ++ [k.receiver.class_]⟩ ∧
        e.LeavesAlone t k.store := by
  induction tokens, v, s using (e.under q).walk_induction with
  | nil v s => exact .inl (by rw [run_nil, run_nil])
  | refused token rest v s halt t hk =>
    rcases next_under hpq token rest v s with hp | ⟨k, hk', -⟩
    · exact .inl (by rw [run_of_next_error hk, run_of_next_error (hp.trans hk)])
    · rw [hk] at hk'
      cases hk'
  | failed token rest v s k halt t hk hf =>
    rcases next_under hpq token rest v s with hp | ⟨k', hk', hp, hr⟩
    · exact .inl (by rw [run_of_finish_error hk hf, run_of_finish_error (hp.trans hk) hf])
    · -- The refusal comes before the call can fail.
      obtain rfl := receiver_of_next hk'
      exact .inr ⟨[], token, rest, k', s, .refl, .refl, hk', hp, run_of_next_error hr,
        (readsTo_of_next_under hk').leavesAlone⟩
  | made token rest v s k w t hk hf ih =>
    rcases next_under hpq token rest v s with hp | ⟨k', hk', hp, hr⟩
    · have hk' := hp.trans hk
      rcases ih with heq | ⟨ks, token', rest', k', u, hwp, hwq, hn, hp', hrun, hleft⟩
      · exact .inl (by rw [run_of_finish_ok hk hf, run_of_finish_ok hk' hf, heq])
      · refine .inr ⟨k :: ks, token', rest', k', u, .step hk' hf hwp, .step hk hf hwq, hn, hp', ?_,
          hleft⟩
        rw [run_of_finish_ok hk' hf, hrun, receiver_of_next hk]
        rfl
    · obtain rfl := receiver_of_next hk'
      exact .inr ⟨[], token, rest, k', s, .refl, .refl, hk', hp, run_of_next_error hr,
        (readsTo_of_next_under hk').leavesAlone⟩

/-- Policies differ in nothing but the calls that they permit. Under a more generous policy a
    walk is the same, unless it ends under the other with a refusal, at a call that both walks
    come to by the same calls and with the same store; all that is done to it there is that the
    literals of the call are read. Under a list of classes no body of an internal method runs whose
    class is not listed, and it does not matter what these do. -/
theorem run_under (e : Engine) (tokens : List String) (v : Value) (s : Store) :
    (∀ p q : AccessPolicy, (∀ m, p.permits e.hierarchy m → q.permits e.hierarchy m) →
      (e.under p).run tokens v s = (e.under q).run tokens v s ∨
      ∃ ks token rest k t, (e.under p).Walks tokens v s ks (token :: rest) (some k.receiver) t ∧
        (e.under q).Walks tokens v s ks (token :: rest) (some k.receiver) t ∧
        (e.under q).next token rest (some k.receiver) t = .ok k ∧
        p.permits e.hierarchy k.method = false ∧
        (e.under p).run tokens v s =
          ⟨.error (.raised token (.illegalAccess (k.method.signature e.hierarchy))), k.store,
            askedBy ks ++ [k.receiver.class_]⟩ ∧
        e.LeavesAlone t k.store) ∧
    ∀ paths, (∀ k ∈ (e.under (.allowing paths)).bodies tokens v s,
        k.method.visibility = .internal → e.hierarchy.path k.method.declaring ∈ paths) ∧
      ∀ f : Method → Body, (∀ m, (m.visibility = .internal →
          e.hierarchy.path m.declaring ∈ paths) → f m = m.body) →
        ((e.under (.allowing paths)).withBodies f).run tokens v s =
          (e.under (.allowing paths)).run tokens v s := by
  refine ⟨fun p q hpq => run_under_or hpq tokens v s, fun paths => ⟨fun k hk hi => ?_, ?_⟩⟩
  · exact (AccessPolicy.permits_allowing_iff _ _ _).1
      (permits_of_mem_calls (List.mem_filter.1 hk).1) hi
  · intro f hf
    exact run_withBodies (fun m hp => hf m ((AccessPolicy.permits_allowing_iff _ _ _).1 hp))
      tokens v s

/-- Asking a world for its seed under the policy that lists no class, and under one that lists
    the class of worlds. -/
theorem run_under_getSeed :
    let e := overPlain .exportedOnly
    let q := AccessPolicy.allowing ["world::World"]
    let tokens := ["getWorld()", "getSeed()"]
    let v : Value := some (.value 0 (.location ⟨⟨0⟩, 0, 0, 0⟩))
    let s : Store :=
      { Store.empty with
        realm := { Realm.empty with worlds := Table.empty.insert (.make "w" 7 none) } }
    (∀ m, AccessPolicy.exportedOnly.permits e.hierarchy m → q.permits e.hierarchy m) ∧
      ((e.under q).run tokens v s).outcome = .ok (some (.value 0 (.scalar .long 7))) ∧
      ∃ ks token rest k t,
        (e.under .exportedOnly).Walks tokens v s ks (token :: rest) (some k.receiver) t ∧
        (e.under q).Walks tokens v s ks (token :: rest) (some k.receiver) t ∧
        (e.under q).next token rest (some k.receiver) t = .ok k ∧
        AccessPolicy.exportedOnly.permits e.hierarchy k.method = false ∧
        (e.under .exportedOnly).run tokens v s =
          ⟨.error (.raised token (.illegalAccess (k.method.signature e.hierarchy))), k.store,
            askedBy ks ++ [k.receiver.class_]⟩ ∧
        e.LeavesAlone t k.store := by
  intro e q tokens v s
  have hpq (m : Method) (hm : AccessPolicy.exportedOnly.permits e.hierarchy m) :
      q.permits e.hierarchy m := by
    rw [AccessPolicy.permits_allowing_iff]
    exact fun hi => absurd ((AccessPolicy.permits_allowing_iff _ _ _).1 hm hi) List.not_mem_nil
  -- The numbers with fractions do not matter, and nothing is computed with them.
  have hruns (x y z : Float) (spawn : Float × Float × Float) :
      let v : Value := some (.value 0 (.location ⟨⟨0⟩, x, y, z⟩))
      let w : World := ⟨"w", 7, 0, .clear, spawn, .empty, [], none⟩
      let s : Store :=
        { Store.empty with realm := { Realm.empty with worlds := Table.empty.insert w } }
      ((e.under q).run tokens v s).outcome = .ok (some (.value 0 (.scalar .long 7))) ∧
        ((e.under .exportedOnly).run tokens v s).outcome =
          .error (.raised "getSeed()" (.illegalAccess "getSeed()")) := by
    cbv
    exact ⟨rfl, trivial⟩
  obtain ⟨hq, hp⟩ := hruns 0 0 0 (0.5, 64, 0.5)
  refine ⟨hpq, hq, ((run_under e tokens v s).1 _ q hpq).resolve_left fun heq => ?_⟩
  have hpq : Except.error _ = Except.ok _ := hp.symm.trans ((congrArg Run.outcome heq).trans hq)
  cases hpq

end Engine

end Chainwalk
