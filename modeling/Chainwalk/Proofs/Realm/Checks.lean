import Mathlib
import Chainwalk.Object.Store

/-!
# Actions that check a condition

Some actions fail exactly if a condition does not hold that has nothing to do with the state that
they meet, as long as this is one of those that are expected. Put together, such actions check all
their conditions: the first one that does not hold ends the whole.

* `Checks`: such an action, the states expected before it and the states that it leads to;
* `Checks.bind`, `Checks.forM_forall`: all conditions are checked;
* `Checks.forM`: a condition on a list, checked as the list grows;
* `Leads`: what an action leads to where it succeeds, whatever it checks;
* `Checks.and_leads`: the two put together.
-/

namespace Chainwalk

/-- From the states with `I` an action succeeds exactly if `P` holds, and then `Q` holds of what it
    gives and of the state that it leads to. -/
def Checks {σ ε α : Type} (I : σ → Prop) (a : ExceptT ε (StateM σ) α) (P : Prop)
    (Q : α → σ → Prop) : Prop :=
  ∀ s, I s →
    match a s with
    | (.ok x, t) => P ∧ Q x t
    | (.error _, _) => ¬P

namespace Checks

variable {σ ε α β : Type} {I I' : σ → Prop} {a : ExceptT ε (StateM σ) α} {P P' : Prop}
  {Q Q' : α → σ → Prop} {R : β → σ → Prop}

theorem pure {x : α} (hx : ∀ s, I s → Q x s) :
    Checks I (Pure.pure x : ExceptT ε (StateM σ) α) True Q :=
  fun s hs => ⟨trivial, hx s hs⟩

theorem throw (e : ε) : Checks I (MonadExcept.throw e : ExceptT ε (StateM σ) α) False Q :=
  fun _ _ => id

/-- An action that does not fail. -/
theorem of_eq_ok (ha : ∀ s, I s → ∃ x t, a s = (.ok x, t) ∧ Q x t) : Checks I a True Q := by
  intro s hs
  obtain ⟨x, t, hx, hq⟩ := ha s hs
  rw [hx]
  exact ⟨trivial, hq⟩

theorem mono (ha : Checks I a P Q) (hI : ∀ s, I' s → I s) (hP : P ↔ P')
    (hQ : ∀ x s, Q x s → Q' x s) : Checks I' a P' Q' := by
  intro s hs
  have hrun := ha s (hI s hs)
  generalize a s = outcome at hrun ⊢
  obtain ⟨e | x, t⟩ := outcome
  · exact hP.not.1 hrun
  · exact ⟨hP.1 hrun.1, hQ x t hrun.2⟩

theorem iff (ha : Checks I a P Q) (hP : P ↔ P') : Checks I a P' Q :=
  ha.mono (fun _ => id) hP fun _ _ => id

/-- Where the action has succeeded, the condition holds. -/
theorem and_post (ha : Checks I a P Q) : Checks I a P fun x s => P ∧ Q x s := by
  intro s hs
  have hrun := ha s hs
  generalize a s = outcome at hrun ⊢
  obtain ⟨e | x, t⟩ := outcome
  · exact hrun
  · exact ⟨hrun.1, hrun⟩

theorem bind {k : α → ExceptT ε (StateM σ) β} (ha : Checks I a P Q)
    (hk : ∀ x, Checks (Q x) (k x) P' R) : Checks I (a >>= k) (P ∧ P') R := by
  intro s hs
  have hfirst := ha s hs
  rw [bind_apply]
  generalize a s = first at hfirst ⊢
  obtain ⟨e | x, t⟩ := first
  · exact fun h => hfirst h.1
  · exact (hk x).iff (and_iff_right hfirst.1).symm t hfirst.2

/-- What is asked of the state may be used to say what is checked of it. -/
theorem get_bind {k : σ → ExceptT ε (StateM σ) α}
    (hk : ∀ s, I s → Checks (· = s) (k s) P Q) : Checks I (get >>= k) P Q :=
  fun s hs => hk s hs s rfl

/-- A check before the action. -/
theorem guard {c : Prop} [Decidable c] (e : ε) {k : PUnit → ExceptT ε (StateM σ) α}
    (hk : Checks I (k ⟨⟩) P Q) :
    Checks I (if c then MonadExcept.throw e >>= k else k ⟨⟩) (¬c ∧ P) Q := by
  split
  case isTrue hc => exact fun _ _ h => h.1 hc
  case isFalse hc => exact hk.iff (and_iff_right hc).symm

theorem forM_forall {f : β → ExceptT ε (StateM σ) PUnit} {P : β → Prop}
    (hf : ∀ x, Checks I (f x) (P x) fun _ => I) (xs : List β) :
    Checks I (xs.forM f) (∀ x ∈ xs, P x) fun _ => I := by
  induction xs with
  | nil => exact fun s hs => ⟨List.forall_mem_nil P, hs⟩
  | cons x xs ih => exact ((hf x).bind fun _ => ih).iff List.forall_mem_cons.symm

/-- A loop over a list checks a condition of the whole list if each of its steps checks the
    condition of the list so far. -/
theorem forM {f : β → ExceptT ε (StateM σ) PUnit} {I : List β → σ → Prop} {P : List β → Prop}
    (hP : ∀ xs ys, P (xs ++ ys) → P xs) (hI : ∀ xs s, I xs s → P xs)
    (hf : ∀ xs x, Checks (I xs) (f x) (P (xs ++ [x])) fun _ => I (xs ++ [x])) (xs ys : List β) :
    Checks (I xs) (ys.forM f) (P (xs ++ ys)) fun _ => I (xs ++ ys) := by
  induction ys generalizing xs with
  | nil =>
    rw [List.append_nil]
    exact fun s hs => ⟨hI xs s hs, hs⟩
  | cons y ys ih =>
    have hrun := (hf xs y).bind fun _ => ih (xs ++ [y])
    rw [List.append_assoc, List.singleton_append] at hrun
    refine hrun.iff (and_iff_right_of_imp fun h => hP (xs ++ [y]) ys ?_)
    rwa [List.append_assoc, List.singleton_append]

end Checks

/-! ## Where actions succeed -/

/-- From the states with `I` an action leads, where it succeeds, to results and states with `Q`. -/
def Leads {σ ε α : Type} (I : σ → Prop) (a : ExceptT ε (StateM σ) α) (Q : α → σ → Prop) : Prop :=
  ∀ s x t, I s → a s = (.ok x, t) → Q x t

namespace Leads

variable {σ ε α β : Type} {I I' : σ → Prop} {a : ExceptT ε (StateM σ) α} {Q : α → σ → Prop}
  {R : β → σ → Prop}

theorem pure {x : α} (hx : ∀ s, I s → Q x s) :
    Leads I (Pure.pure x : ExceptT ε (StateM σ) α) Q := by
  rintro s y t hs ⟨⟩
  exact hx s hs

theorem throw (e : ε) : Leads I (MonadExcept.throw e : ExceptT ε (StateM σ) α) Q := by
  rintro s x t - ⟨⟩

theorem bind {k : α → ExceptT ε (StateM σ) β} (ha : Leads I a Q)
    (hk : ∀ x, Leads (Q x) (k x) R) : Leads I (a >>= k) R := by
  intro s y u hs hrun
  have hfirst := ha s
  rw [bind_apply] at hrun
  generalize a s = first at hrun hfirst
  obtain ⟨e | x, t⟩ := first
  · cases hrun
  · exact hk x t y u (hfirst x t hs rfl) hrun

/-- What is asked of the state is known of it. -/
theorem get_bind {k : σ → ExceptT ε (StateM σ) α} (hk : ∀ s, I s → Leads (· = s) (k s) Q) :
    Leads I (get >>= k) Q :=
  fun s x t hs hrun => hk s hs s x t rfl hrun

theorem mono (ha : Leads I a Q) (hI : ∀ s, I' s → I s) : Leads I' a Q :=
  fun s x t hs hrun => ha s x t (hI s hs) hrun

/-- A loop over a list, of which something is known for the list so far. -/
theorem forM {f : β → ExceptT ε (StateM σ) PUnit} {I : List β → σ → Prop}
    (hf : ∀ xs x, Leads (I xs) (f x) fun _ => I (xs ++ [x])) (xs ys : List β) :
    Leads (I xs) (ys.forM f) fun _ => I (xs ++ ys) := by
  induction ys generalizing xs with
  | nil =>
    rw [List.append_nil]
    exact .pure fun _ => id
  | cons y ys ih =>
    have hrun := (hf xs y).bind fun _ => ih (xs ++ [y])
    rwa [List.append_assoc, List.singleton_append] at hrun

end Leads

/-- What an action leads to, apart from what it checks. -/
theorem Checks.and_leads {σ ε α : Type} {I J : σ → Prop} {a : ExceptT ε (StateM σ) α} {P : Prop}
    {Q K : α → σ → Prop} (ha : Checks I a P Q) (hk : Leads (fun s => I s ∧ J s) a K) :
    Checks (fun s => I s ∧ J s) a P fun x s => Q x s ∧ K x s := by
  intro s hs
  have hrun := ha s hs.1
  have hkept := hk s
  generalize a s = outcome at hrun hkept ⊢
  obtain ⟨e | x, t⟩ := outcome
  · exact hrun
  · exact ⟨hrun.1, hrun.2, hkept x t hs rfl⟩

end Chainwalk
