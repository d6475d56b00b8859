import Mathlib
import Chainwalk.Object.Store

/-!
# Actions along a relation

What a sequence of actions does to the state is often told by a relation that is reflexive and
transitive: an action goes *along* such a relation if it leads from every state only to states that
are related to it, whether it fails or not. Actions put together of such actions go along the
relation too, so that it has to be shown of the smallest actions only.

* `Along`: of calls and conversions, and of changes of the realm;
* `Along.bind`, `Along.get_bind`: one action after another;
* `InvImage R Store.realm`: a relation of realms, as one of stores.
-/

namespace Chainwalk

/-- An action that leads from every state only to states related to it. -/
def Along {σ ε α : Type} (R : σ → σ → Prop) (a : ExceptT ε (StateM σ) α) : Prop :=
  ∀ s, R s (a s).2

namespace Along

variable {σ ε α β : Type} {R : σ → σ → Prop} [IsPreorder σ R]

theorem pure (a : α) : Along R (Pure.pure a : ExceptT ε (StateM σ) α) := fun s => refl_of R s

theorem throw (e : ε) : Along R (MonadExcept.throw e : ExceptT ε (StateM σ) α) :=
  fun s => refl_of R s

theorem bind {a : ExceptT ε (StateM σ) α} {k : α → ExceptT ε (StateM σ) β} (ha : Along R a)
    (hk : ∀ x, Along R (k x)) : Along R (a >>= k) := by
  intro s
  have hs := ha s
  rw [bind_apply]
  generalize a s = first at hs
  obtain ⟨e | x, t⟩ := first
  · exact hs
  · exact trans_of R hs (hk x t)

/-- What comes after a failure is not done. -/
theorem throw_bind (e : ε) (k : α → ExceptT ε (StateM σ) β) :
    Along R (MonadExcept.throw e >>= k) :=
  fun s => refl_of R s

omit [IsPreorder σ R] in
/-- What is asked of the state does not change it. -/
theorem get_bind {k : σ → ExceptT ε (StateM σ) α} (hk : ∀ s, Along R (k s)) :
    Along R (get >>= k) :=
  fun s => hk s s

/-- A check before the action. -/
theorem guard {c : Prop} [Decidable c] (e : ε) {k : PUnit → ExceptT ε (StateM σ) α}
    (hk : Along R (k ⟨⟩)) : Along R (if c then MonadExcept.throw e >>= k else k ⟨⟩) := by
  split
  · exact throw_bind e k
  · exact hk

omit [IsPreorder σ R] in
theorem modifyGet {f : σ → α × σ} (hf : ∀ s, R s (f s).2) :
    Along R (MonadState.modifyGet f : ExceptT ε (StateM σ) α) :=
  hf

omit [IsPreorder σ R] in
/-- Other words for why an action fails. -/
theorem adapt {ε' : Type} {a : ExceptT ε (StateM σ) α} (ha : Along R a) (g : ε → ε') :
    Along R (ExceptT.adapt g a) :=
  ha

theorem map {a : ExceptT ε (StateM σ) α} (ha : Along R a) (f : α → β) : Along R (f <$> a) := by
  rw [← bind_pure_comp]
  exact ha.bind fun x => pure (f x)

theorem mapM {f : α → ExceptT ε (StateM σ) β} (hf : ∀ x, Along R (f x)) (xs : List α) :
    Along R (xs.mapM f) := by
  induction xs with
  | nil => exact pure []
  | cons x xs ih =>
    rw [List.mapM_cons]
    exact (hf x).bind fun y => ih.bind fun ys => pure (y :: ys)

theorem forM {f : α → ExceptT ε (StateM σ) PUnit} (hf : ∀ x, Along R (f x)) (xs : List α) :
    Along R (xs.forM f) := by
  induction xs with
  | nil => exact pure _
  | cons x xs ih => exact (hf x).bind fun _ => ih

end Along

/-! ## Calls and conversions -/

/-- Stores are related as their realms are. -/
instance isPreorder_realm (R : Realm → Realm → Prop) [IsPreorder Realm R] :
    IsPreorder Store (InvImage R Store.realm) where
  refl s := refl_of R s.realm
  trans _ _ _ := trans_of R

section

variable {α : Type} {R : Realm → Realm → Prop} [IsPreorder Realm R]

theorem along_ofExcept (e : Except Fault α) : Along (InvImage R Store.realm) (Act.ofExcept e) :=
  fun s => refl_of R s.realm

theorem along_ask (f : Realm → α) : Along (InvImage R Store.realm) (Act.ask f) :=
  fun s => refl_of R s.realm

theorem along_code (o : Object) : Along (InvImage R Store.realm) (Act.code o) :=
  fun s => refl_of R s.realm

theorem along_new (d : Datum) : Along (InvImage R Store.realm) (Act.new d) :=
  fun s => refl_of R s.realm

theorem along_scalar (k : ScalarKind) (v : k.Carrier) :
    Along (InvImage R Store.realm) (Act.scalar k v) :=
  fun s => refl_of R s.realm

theorem along_newList (elements : List Value) :
    Along (InvImage R Store.realm) (Act.newList elements) :=
  fun s => refl_of R s.realm

theorem along_newListOf (objects : List Object) :
    Along (InvImage R Store.realm) (Act.newListOf objects) :=
  fun s => refl_of R s.realm

omit [IsPreorder Realm R] in
theorem along_realm {m : RealmM α} (hm : Along R m) :
    Along (InvImage R Store.realm) (Act.realm m) :=
  fun s => hm s.realm

theorem along_orElse (v : Option α) (fault : Fault) :
    Along (InvImage R Store.realm) (Act.orElse v fault) := by
  rcases v with _ | a
  · exact .throw fault
  · exact .pure a

end

end Chainwalk
