import Mathlib
import Chainwalk.Object.Store

/-!
# Blind actions

An action is *blind* to a change of the state if it makes the same of the changed state as of
the state itself, and leaves the one changed where it leaves the other: it neither tells what
the change is about nor acts on it. Blindness goes through the ways in which actions are put
together, so that it has to be shown of the smallest actions only.

* `Blind`: of calls and conversions, and of changes of the realm;
* `Blind.bind`, `Blind.bind_of_map`, `Blind.get_bind`: one action after another.
-/

namespace Chainwalk

/-- An action that does not see what `u` changes. -/
def Blind {σ ε α : Type} (u : σ → σ) (a : ExceptT ε (StateM σ) α) : Prop :=
  ∀ s, a (u s) = ((a s).1, u (a s).2)

namespace Blind

variable {σ ε α β : Type} {u : σ → σ}

theorem pure (a : α) : Blind u (Pure.pure a : ExceptT ε (StateM σ) α) := fun _ => rfl

theorem throw (e : ε) : Blind u (MonadExcept.throw e : ExceptT ε (StateM σ) α) := fun _ => rfl

theorem bind {a : ExceptT ε (StateM σ) α} {k : α → ExceptT ε (StateM σ) β} (ha : Blind u a)
    (hk : ∀ x, Blind u (k x)) : Blind u (a >>= k) := by
  intro s
  rw [bind_apply, bind_apply, ha s]
  rcases a s with ⟨e | x, t⟩
  · rfl
  · exact hk x t

/-- The first action may hand out something that `u` changes, if the second one does not look at
    that. -/
theorem bind_of_map {a : ExceptT ε (StateM σ) α} {g : α → α} {k : α → ExceptT ε (StateM σ) β}
    (ha : ∀ s, a (u s) = ((a s).1.map g, u (a s).2)) (hk : ∀ x, Blind u (k x))
    (hg : ∀ x, k (g x) = k x) : Blind u (a >>= k) := by
  intro s
  rw [bind_apply, bind_apply, ha s]
  rcases a s with ⟨e | x, t⟩
  · rfl
  · change k (g x) (u t) = _
    rw [hg]
    exact hk x t

/-- What is asked of the state must not be what `u` changes. -/
theorem get_bind {k : σ → ExceptT ε (StateM σ) α} (hk : ∀ s, Blind u (k s))
    (hu : ∀ s, k (u s) = k s) : Blind u (get >>= k) := by
  intro s
  change k (u s) (u s) = ((k s s).1, u (k s s).2)
  rw [hu]
  exact hk s s

/-- A check before the action, which may be up to nothing that `u` changes. -/
theorem guard {c : Prop} [Decidable c] (e : ε) {k : PUnit → ExceptT ε (StateM σ) α}
    (hk : Blind u (k ⟨⟩)) : Blind u (if c then MonadExcept.throw e >>= k else k ⟨⟩) := by
  split
  · exact (throw e).bind fun _ => hk
  · exact hk

theorem modify {f : σ → σ} (hf : ∀ s, f (u s) = u (f s)) :
    Blind u (MonadState.modifyGet fun s => ((), f s) : ExceptT ε (StateM σ) PUnit) := by
  intro s
  change (Except.ok (), f (u s)) = (Except.ok (), u (f s))
  rw [hf]

theorem modifyGet {f : σ → α × σ} (hf : ∀ s, f (u s) = ((f s).1, u (f s).2)) :
    Blind u (MonadState.modifyGet f : ExceptT ε (StateM σ) α) := by
  intro s
  change (Except.ok (f (u s)).1, (f (u s)).2) = (Except.ok (f s).1, u (f s).2)
  rw [hf]

/-- Other words for why an action fails. -/
theorem adapt {ε' : Type} {a : ExceptT ε (StateM σ) α} (ha : Blind u a) (g : ε → ε') :
    Blind u (ExceptT.adapt g a) := by
  intro s
  rw [adapt_apply, adapt_apply, ha s]

theorem map {a : ExceptT ε (StateM σ) α} (ha : Blind u a) (f : α → β) : Blind u (f <$> a) := by
  rw [← bind_pure_comp]
  exact ha.bind fun x => pure (f x)

theorem mapM {f : α → ExceptT ε (StateM σ) β} (hf : ∀ x, Blind u (f x)) (xs : List α) :
    Blind u (xs.mapM f) := by
  induction xs with
  | nil => exact pure []
  | cons x xs ih =>
    rw [List.mapM_cons]
    exact (hf x).bind fun y => ih.bind fun ys => pure (y :: ys)

theorem forM {f : α → ExceptT ε (StateM σ) PUnit} (hf : ∀ x, Blind u (f x)) (xs : List α) :
    Blind u (xs.forM f) := by
  induction xs with
  | nil => exact pure _
  | cons x xs ih => exact (hf x).bind fun _ => ih

end Blind

end Chainwalk
