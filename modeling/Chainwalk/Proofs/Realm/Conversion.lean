import Chainwalk.Proofs.Realm.Along
import Chainwalk.Proofs.Registry.Shipped

/-!
# Conversions along a relation

Reading a literal does nothing to the realm, except that a literal of a stack makes a new stack. So
reading in the registries of the library goes along every relation of realms that new stacks go
along.

* `InputHandler.Along`: handlers that go along a relation, if the registry does;
* `Registry.along_attempt`: reading does.
-/

namespace Chainwalk

variable {R : Realm → Realm → Prop} {α : Type}

/-- An input handler that goes along a relation, if the registry does. -/
def InputHandler.Along (R : Realm → Realm → Prop) (i : InputHandler) : Prop :=
  ∀ h sender nested literal c,
    (∀ d part, Chainwalk.Along (InvImage R Store.realm) (nested d part)) →
      Chainwalk.Along (InvImage R Store.realm) (i.convert h sender nested literal c)

variable [IsPreorder Realm R]

namespace InputHandler

theorem along_scalarInput (k : ScalarKind) : (scalarInput k).Along R :=
  fun _ _ _ _ _ _ => (along_ofExcept _).bind fun _ => along_new _

theorem along_arrayInput (k : ScalarKind) : (arrayInput k).Along R :=
  fun _ _ _ _ _ _ => (along_ofExcept _).bind fun _ => along_new _

theorem along_enumerationInput : enumerationInput.Along R :=
  fun _ _ _ _ _ _ => (along_orElse _ _).bind fun _ => along_new _

theorem along_collectionInput : collectionInput.Along R := by
  intro h sender nested literal c hn
  have hlist : Chainwalk.Along (InvImage R Store.realm) (do
      let elements ← (Text.elementTexts literal).mapM (nested .string)
      Act.newList elements) :=
    .bind (.mapM (hn _) _) fun _ => along_newList _
  simp only [collectionInput]
  split
  · exact .bind (.throw _) fun _ => hlist
  · exact hlist

theorem along_worldInput (s : Ref .server) : (worldInput s).Along R :=
  fun _ _ _ _ _ _ => (along_ask _).bind fun _ => (along_orElse _ _).bind
    fun _ => .pure _

theorem along_playerInput (s : Ref .server) : (playerInput s).Along R :=
  fun _ _ _ _ _ _ => (along_ask _).bind fun _ => (along_orElse _ _).bind
    fun _ => .pure _

theorem along_entityInput (s : Ref .server) : (entityInput s).Along R := by
  intro h sender nested literal c hn
  refine (along_ask _).bind fun _ => (along_orElse _ _).bind fun e => ?_
  dsimp only
  split
  · exact .bind (.throw _) fun _ => .pure _
  · exact .pure _

theorem along_locationInput (s : Ref .server) : (locationInput s).Along R :=
  fun _ _ _ _ _ _ => (along_ask _).bind fun _ => (along_ofExcept _).bind fun _ => along_new _

theorem along_blockInput (s : Ref .server) : (blockInput s).Along R :=
  fun _ _ _ _ _ _ => (along_ask _).bind fun _ => (along_ofExcept _).bind fun _ => along_new _

theorem along_itemStackInput (hstack : ∀ m n, Chainwalk.Along R (Realm.newStack (.make m n))) :
    itemStackInput.Along R := by
  intro h sender nested literal c hn
  refine (along_ofExcept _).bind fun ⟨name, count⟩ => (hn _ _).bind fun v =>
    (along_orElse _ _).bind fun o => (along_orElse _ _).bind fun m =>
    .bind ?_ fun r => .pure _
  exact along_realm (hstack m count)

theorem along_of_mem_shippedHandlers
    (hstack : ∀ m n, Chainwalk.Along R (Realm.newStack (.make m n)))
    {server? : Option (Ref .server)} {i : InputHandler}
    (hi : .input i ∈ Registry.shippedHandlers server?) : i.Along R :=
  Registry.cases_of_mem_shippedHandlers along_scalarInput along_arrayInput along_enumerationInput
    along_collectionInput along_worldInput along_playerInput along_entityInput along_locationInput
    along_blockInput (along_itemStackInput hstack) hi

end InputHandler

namespace Registry

variable {r : Registry} {h : Hierarchy} {sender : Option Sender} {server? : Option (Ref .server)}

theorem along_attemptWithin (hstack : ∀ m n, Along R (Realm.newStack (.make m n))) (depth : Nat)
    (c : Class) (literal : String) :
    Along (InvImage R Store.realm)
      ((shipped server?).attemptWithin h sender depth c literal) := by
  induction depth generalizing c literal with
  | zero =>
    rw [attemptWithin_zero]
    split
    · exact .pure none
    · cases (shipped server?).inputFor? h c <;> exact .throw _
  | succ depth ih =>
    rw [attemptWithin_succ]
    split
    · exact .pure none
    · cases hi : (shipped server?).inputFor? h c with
      | none => exact .throw _
      | some i =>
        -- Nested conversions have less depth left.
        have halong := InputHandler.along_of_mem_shippedHandlers hstack
          (mem_shippedHandlers_of_inputFor? hi)
        exact (halong h sender _ literal c fun d part => (ih d part).adapt _).adapt _

theorem along_attempt (hstack : ∀ m n, Along R (Realm.newStack (.make m n))) (c : Class)
    (literal : String) :
    Along (InvImage R Store.realm) ((shipped server?).attempt h sender c literal) :=
  along_attemptWithin hstack _ c literal

end Registry

end Chainwalk
