import Mathlib
import Chainwalk.Conversion.Plain
import Chainwalk.Conversion.Residents

/-!
# The handlers of a registry

Which handlers a registry has, and how it goes about reading a literal with them.

* `Registry.mem_handlers_registerAll`: a registry has no handlers but those registered;
* `Registry.attemptWithin_succ`: a literal is null, or read by the handler of the class;
* `Registry.Settles`: whether there is room enough for the conversions inside one another;
* `Registry.Settles.attempt_eq`: then reading is the recursion that nothing bounds.
-/

namespace Chainwalk

namespace Registry

/-- The handlers of both sides. -/
def handlers (r : Registry) : List Handler := r.inputs.map .input ++ r.outputs.map .output

variable {r : Registry}

theorem mem_inputs_install {i j : InputHandler} (hj : j ∈ (r.install i).inputs) :
    j = i ∨ j ∈ r.inputs := by
  simp only [inputs, install, vacate, List.map_append, List.mem_append] at hj ⊢
  rcases hj with (hj | hj) | hj
  · -- What stays in the table was there.
    exact .inr (.inl ((List.filter_sublist.map _).subset hj))
  · exact .inl (List.mem_singleton.1 hj)
  · split at hj
    · exact (List.mem_append.1 hj).elim (.inr ∘ .inr) (.inl ∘ List.mem_singleton.1)
    · exact .inr (.inr hj)

theorem mem_inputs_of_forget {i j : InputHandler} (hj : j ∈ (r.forget i).inputs) :
    j ∈ r.inputs := by
  rcases List.mem_append.1 hj with hj | hj
  · exact List.mem_append_left _ hj
  · exact List.mem_append_right _ (List.mem_filter.1 hj).1

/-- Whether another handler gives way or not, none comes but the new one. -/
theorem mem_handlers_register {k k' : Handler} (hm : k' ∈ (r.register k).2.handlers) :
    k' = k ∨ k' ∈ r.handlers := by
  cases k with
  | input i =>
    -- The output handlers stay, so only input handlers have to be looked at.
    have hinputs {t : Registry} (hsub : ∀ j ∈ t.inputs, j = i ∨ j ∈ r.inputs)
        (houtputs : t.outputs = r.outputs) (hm : k' ∈ t.handlers) :
        k' = .input i ∨ k' ∈ r.handlers := by
      rw [handlers, houtputs] at hm
      rcases List.mem_append.1 hm with hm | hm
      · obtain ⟨j, hj, rfl⟩ := List.mem_map.1 hm
        exact (hsub j hj).imp (congrArg _) fun hj =>
          List.mem_append_left _ (List.mem_map_of_mem hj)
      · exact .inr (List.mem_append_right _ hm)
    rw [register] at hm
    split at hm
    · split at hm
      · exact hinputs (fun j hj => (mem_inputs_install hj).imp id mem_inputs_of_forget) rfl hm
      · exact .inr hm
    · exact hinputs (fun j hj => mem_inputs_install hj) rfl hm
  | output o =>
    rw [register] at hm
    split at hm
    · exact .inr hm
    · rw [handlers, List.map_append, ← List.append_assoc] at hm
      exact (List.mem_append.1 hm).symm.imp (fun hm => by simpa using hm) id

/-- A registry has no handlers but those that it had and those that were registered. -/
theorem mem_handlers_registerAll {ks : List Handler} {k : Handler}
    (hm : k ∈ (r.registerAll ks).2.handlers) : k ∈ ks ∨ k ∈ r.handlers := by
  induction ks generalizing r with
  | nil => exact .inr hm
  | cons k' ks ih =>
    rcases ih hm with hm | hm
    · exact .inl (List.mem_cons_of_mem _ hm)
    · exact (mem_handlers_register hm).imp (fun hk => List.mem_cons.2 (.inl hk)) id

/-- The registry of a server: the handlers of plain values and those of its residents. -/
def ofServer (s : Ref .server) : Registry := (plain.registerResidents s).2

/-- The registry that comes with the library: the handlers of plain values, alone or followed by
    those of the residents of a server. -/
def shipped : Option (Ref .server) → Registry
  | none => plain
  | some s => ofServer s

/-! ## Reading -/

variable {h : Hierarchy} {sender : Option Sender}

theorem mem_exact_of_registered? {c : Class} {i : InputHandler}
    (hi : r.registered? c = some i) : (c, i) ∈ r.exact := by
  obtain ⟨before, after, hexact, -⟩ := List.lookup_eq_some_iff.1 hi
  simp [hexact]

theorem mem_of_inputFor? {c : Class} {i : InputHandler} (hi : r.inputFor? h c = some i) :
    i ∈ r.inputs := by
  rcases Option.or_eq_some_iff.1 hi with hi | ⟨-, hi⟩
  · exact List.mem_append_left _ (List.mem_map.2 ⟨_, mem_exact_of_registered? hi, rfl⟩)
  · exact List.mem_append_right _ (List.mem_of_find?_eq_some hi)

theorem mem_of_outputFor? {c : Class} {o : OutputHandler} (ho : r.outputFor? h c = some o) :
    o ∈ r.outputs :=
  List.mem_of_find?_eq_some ho

/-- The nested conversions that a handler is given. -/
def nestedWithin (r : Registry) (h : Hierarchy) (sender : Option Sender) (depth : Nat) (c : Class)
    (part : String) : Act Value :=
  (r.attemptWithin h sender depth c part).toAct

theorem attemptWithin_zero (c : Class) (literal : String) :
    r.attemptWithin h sender 0 c literal =
      if literal = nullToken then pure none
      else
        match r.inputFor? h c with
        | none => throw ⟨.noHandler (h.path c)⟩
        | some _ => throw ⟨.noRoom (h.path c)⟩ := by
  unfold attemptWithin
  cases r.inputFor? h c <;> rfl

theorem attemptWithin_succ (depth : Nat) (c : Class) (literal : String) :
    r.attemptWithin h sender (depth + 1) c literal =
      if literal = nullToken then pure none
      else
        match r.inputFor? h c with
        | none => throw ⟨.noHandler (h.path c)⟩
        | some i =>
          ExceptT.adapt ConversionFault.wrap
            (i.convert h sender (r.nestedWithin h sender depth) literal c) := by
  unfold attemptWithin
  cases r.inputFor? h c <;> rfl

/-- What comes of a literal, by what its handler makes of it. -/
def answerOf {α : Type} : Except Fault α × Store → Except ConversionFault (α × Store)
  | (.ok v, t) => .ok (v, t)
  | (.error fault, _) => .error (.wrap fault)

theorem answer_adapt_wrap {α : Type} (a : Act α) (s : Store) :
    Attempt.answer (ExceptT.adapt ConversionFault.wrap a) s = answerOf (a s) := by
  rw [Attempt.answer, adapt_apply]
  rcases a s with ⟨_ | v, t⟩ <;> rfl

/-- Whether there is room enough within a depth: with room for one conversion more, everything is
    read in the same way. -/
def Settles (r : Registry) (h : Hierarchy) (sender : Option Sender) (depth : Nat) : Prop :=
  r.attemptWithin h sender (depth + 1) = r.attemptWithin h sender depth

/-- Where there is room enough, more room does not matter. -/
theorem Settles.eq_of_le {n m : Nat} (hs : r.Settles h sender n) (hle : n ≤ m) :
    r.attemptWithin h sender m = r.attemptWithin h sender n := by
  induction m, hle using Nat.le_induction with
  | base => rfl
  | succ m _ ih =>
    -- What handlers are given for their parts is the same, so what they make of it is.
    have hnested : r.nestedWithin h sender m = r.nestedWithin h sender n := by
      funext d part
      rw [nestedWithin, nestedWithin, ih]
    calc r.attemptWithin h sender (m + 1)
      _ = r.attemptWithin h sender (n + 1) := by
        funext c literal
        rw [attemptWithin_succ, attemptWithin_succ, hnested]
      _ = r.attemptWithin h sender n := hs

/-- Where there is room enough, a literal is read by the handler of its class, which has parts read
    in the same way in its turn. -/
theorem Settles.attempt_eq {n : Nat} (hs : r.Settles h sender n) (hroom : n ≤ r.room) (c : Class)
    (literal : String) :
    r.attempt h sender c literal =
      if literal = nullToken then pure none
      else
        match r.inputFor? h c with
        | none => throw ⟨.noHandler (h.path c)⟩
        | some i =>
          ExceptT.adapt ConversionFault.wrap
            (i.convert h sender (fun d part => (r.attempt h sender d part).toAct) literal c) := by
  have hattempt (d : Class) (part : String) :
      r.attempt h sender d part = r.attemptWithin h sender n d part := by
    rw [attempt, hs.eq_of_le hroom]
  have hone : r.attempt h sender c literal = r.attemptWithin h sender (n + 1) c literal := by
    rw [attempt, hs.eq_of_le hroom]
    exact congrFun (congrFun hs.symm c) literal
  rw [hone, attemptWithin_succ]
  simp only [hattempt]
  rfl

/-- The registry with room for another number of conversions. -/
def withRoom (r : Registry) (n : Nat) : Registry := { r with room := n }

theorem attemptWithin_withRoom (n depth : Nat) :
    (r.withRoom n).attemptWithin h sender depth = r.attemptWithin h sender depth := by
  induction depth with
  | zero =>
    funext c literal
    rw [attemptWithin_zero, attemptWithin_zero]
    rfl
  | succ depth ih =>
    have hnested : (r.withRoom n).nestedWithin h sender depth = r.nestedWithin h sender depth := by
      funext d part
      rw [nestedWithin, nestedWithin, ih]
    funext c literal
    rw [attemptWithin_succ, attemptWithin_succ, hnested]
    rfl

/-- Registries with the same handlers read in the same way if there is room enough in both. -/
theorem Settles.attempt_withRoom {n m : Nat} (hs : r.Settles h sender n) (hroom : n ≤ r.room)
    (hm : n ≤ m) : (r.withRoom m).attempt h sender = r.attempt h sender := by
  funext c literal
  rw [attempt, attempt, attemptWithin_withRoom, hs.eq_of_le hroom]
  exact congrFun (congrFun (hs.eq_of_le hm) c) literal

end Registry

end Chainwalk
