import Chainwalk.Proofs.Chain.Calls

/-!
# Walks compose

Tokens carry no marks between the calls, so two lists of tokens put together might be cut
into calls in another way than each for itself. They are not: what a call takes is decided
by the tokens up to its last literal.

* `Engine.next_append`, `Engine.next_append_of_error`: what further tokens mean for one call;
* `Engine.run_append`: a walk of two lists is the walk of the first, and then of the second
  from where the first has led, unless the first ends in want of literals.
-/

namespace Chainwalk

namespace Engine

variable {e : Engine} {token : String} {rest : List String} {v : Value} {s : Store}

/-- A call that is made is made whatever tokens come after its literals. -/
theorem next_append {k : Call} (hk : e.next token rest v s = .ok k) (more : List String) :
    e.next token (rest ++ more) v s = .ok k := by
  have hle := length_params_le_of_next hk
  rw [next_eq_ok_iff] at hk ⊢
  rwa [Registry.attemptEach_append_of_le _ _ _ hle]

/-- A call that is not made, but not for want of literals, is not made whatever tokens come
    after. The literals may end early: one of them does not convert then. -/
theorem next_append_of_error {halt : Halt} {t : Store}
    (hk : e.next token rest v s = .error (halt, t)) (hkind : halt.kind ≠ "argument mismatch")
    (more : List String) : e.next token (rest ++ more) v s = .error (halt, t) := by
  cases v with
  | none => exact hk
  | some recv =>
    rw [next] at hk ⊢
    split at hk
    · exact hk
    · rename_i m hm
      rw [prepare, collect] at hk ⊢
      rcases hr : e.registry.attemptEach e.hierarchy e.sender m.params rest s with
        ⟨cause | args, u⟩
      · -- The literal that does not convert comes first, whether or not more of them follow.
        rw [hr] at hk
        rwa [Registry.attemptEach_append_of_error _ _ _ hr]
      · rw [hr] at hk
        by_cases hlength : args.length = m.params.length
        · have := Registry.length_of_attemptEach _ _ _ hr
          rw [Registry.attemptEach_append_of_le _ _ _ (by omega), hr]
          exact hk
        · simp only [hlength, if_false] at hk
          cases hk
          exact absurd rfl hkind

/-- The walk of two lists of tokens: if the first list leads to a value, it goes on with the
    second from there; if the first fails, and not for want of literals, it fails in the same
    way. -/
theorem run_append (e : Engine) (a b : List String) (v : Value) (s : Store) :
    (∀ w, (e.run a v s).outcome = .ok w →
      e.run (a ++ b) v s =
        let r := e.run b w (e.run a v s).store
        { r with consulted := (e.run a v s).consulted ++ r.consulted }) ∧
    (∀ halt, (e.run a v s).outcome = .error halt → halt.kind ≠ "argument mismatch" →
      e.run (a ++ b) v s = e.run a v s) := by
  induction a, v, s using e.walk_induction with
  | nil v s => simp
  | refused token rest v s halt t hk =>
    rw [run_of_next_error hk, List.cons_append]
    refine ⟨fun w hw => (by cases hw), fun _ hhalt hkind => ?_⟩
    cases hhalt
    exact run_of_next_error (next_append_of_error hk hkind b)
  | failed token rest v s k halt t hk hf =>
    rw [run_of_finish_error hk hf, List.cons_append]
    exact ⟨fun w hw => (by cases hw), fun _ _ _ => run_of_finish_error (next_append hk b) hf⟩
  | made token rest v s k x t hk hf ih =>
    -- The literals of the call are all in the first list, and the walk goes on with its rest.
    have hle := length_params_le_of_next hk
    rw [run_of_finish_ok hk hf, List.cons_append, run_of_finish_ok (next_append hk b) hf,
      List.drop_append_of_le_length hle]
    refine ⟨fun w hw => ?_, fun halt hhalt hkind => ?_⟩
    · rw [ih.1 w hw]
      simp
    · rw [ih.2 halt hhalt hkind]

/-- A walk cut between two calls, and one cut between the literals of a call, after one that
    does not convert. -/
theorem run_append_instance :
    let e := overPlain .exportedOnly
    let class_ : Value := some (.value 0 (.classRef .server))
    let halt : Halt :=
      .badArgument "spawnMob(MobType,Location)"
        ⟨unreadable .builtins "unicorn" .mobType
          ("expected one of " ++
            ", ".intercalate ((Hierarchy.builtins.constants .mobType).map Constant.name))⟩
    ((e.run ["getClass()"] (some (.server ⟨0⟩)) .empty).outcome = .ok class_ ∧
      e.run (["getClass()"] ++ ["getName()", "charAt(int)", "7"]) (some (.server ⟨0⟩)) .empty =
        let first := e.run ["getClass()"] (some (.server ⟨0⟩)) .empty
        let r := e.run ["getName()", "charAt(int)", "7"] class_ first.store
        { r with consulted := first.consulted ++ r.consulted }) ∧
    (e.run ["spawnMob(MobType,Location)", "unicorn"] (some (.world ⟨0⟩)) .empty).outcome =
        .error halt ∧
      halt.kind ≠ "argument mismatch" ∧
      e.run (["spawnMob(MobType,Location)", "unicorn"] ++ ["1,2,3", "getHealth()"])
          (some (.world ⟨0⟩)) .empty =
        e.run ["spawnMob(MobType,Location)", "unicorn"] (some (.world ⟨0⟩)) .empty := by
  intro e class_ halt
  have hfirst : (e.run ["getClass()"] (some (.server ⟨0⟩)) .empty).outcome = .ok class_ := by
    cbv
  have hhalt : (e.run ["spawnMob(MobType,Location)", "unicorn"] (some (.world ⟨0⟩)) .empty).outcome =
      .error halt := by
    cbv
  have hkind : halt.kind ≠ "argument mismatch" := by decide
  exact ⟨⟨hfirst, (run_append e _ _ _ _).1 _ hfirst⟩, hhalt, hkind,
    (run_append e _ _ _ _).2 _ hhalt hkind⟩

end Engine

end Chainwalk
