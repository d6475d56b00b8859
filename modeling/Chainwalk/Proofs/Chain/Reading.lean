import Chainwalk.Proofs.Chain.Calls
import Chainwalk.Proofs.Realm.Conversion

/-!
# What reading leaves

Before a call is made its literals are read, and if it is not made in the end, that is all that has
happened. What this does to the store is up to the handlers, who may do as they like, and what they
have done is not undone. Handlers that only look at the store leave it as it was; those of the
library make new values, and a new stack for a literal of one.

* `Engine.ReadsTo`: what comes of a store by reading literals;
* `Realm.Untouched`: realms that differ in nothing but new stacks;
* `Engine.LeavesAlone`: what is left where a call is not made;
* `Engine.run_withRoom`: walks do not depend on how much room there is, if there is enough.
-/

namespace Chainwalk

/-! ## Untouched realms -/

/-- A realm after which another one has nothing changed, but may have new stacks. -/
structure Realm.Untouched (a b : Realm) : Prop where
  others : b = { a with itemStacks := b.itemStacks }
  kept : ∀ r s, a.itemStacks.get? r = some s → b.itemStacks.get? r = some s

namespace Realm

instance isPreorder_untouched : IsPreorder Realm Untouched where
  refl _ := ⟨rfl, fun _ _ => id⟩
  trans a b c hab hbc := by
    refine ⟨?_, fun r s hs => hbc.kept r s (hab.kept r s hs)⟩
    rw [hbc.others, hab.others]

theorem untouched_newStack (s : ItemStack) : Along Untouched (newStack s) :=
  fun _ => ⟨rfl, fun _ _ => Table.get?_insert_of_get? _⟩

end Realm

/-- The handlers of the library leave the realm untouched. -/
theorem Registry.untouched_attempt (server? : Option (Ref .server)) (h : Hierarchy)
    (sender : Option Sender) (c : Class) (literal : String) :
    Along (InvImage Realm.Untouched Store.realm)
      ((shipped server?).attempt h sender c literal) :=
  along_attempt (fun _ _ => Realm.untouched_newStack _) c literal

namespace Engine

/-! ## Reading literals -/

section

variable (e : Engine)

/-- What comes of a store by reading literals, one after another, whether or not they can be
    read. -/
def ReadsTo : Store → Store → Prop :=
  Relation.ReflTransGen fun s t => ∃ c l, (e.registry.attempt e.hierarchy e.sender c l s).2 = t

instance isPreorder_readsTo : IsPreorder Store e.ReadsTo where
  refl _ := .refl
  trans _ _ _ := .trans

theorem readsTo_attemptEach (cs : List Class) (ls : List String) :
    Along e.ReadsTo (e.registry.attemptEach e.hierarchy e.sender cs ls) :=
  Registry.along_attemptEach (fun c l _ => .single ⟨c, l, rfl⟩) cs ls

/-- What is left of a store by reading literals. What handlers do not change is as it was, and
    those of the library leave the realm untouched. -/
structure LeavesAlone (s t : Store) : Prop where
  reads : e.ReadsTo s t
  unchanged : ∀ {α : Type} (f : Store → α),
    (∀ c l u, f (e.registry.attempt e.hierarchy e.sender c l u).2 = f u) → f t = f s
  untouched : ∀ server?, e.registry = .shipped server? → s.realm.Untouched t.realm

end

variable {e : Engine} {s t : Store}

/-- What all readings go along is between any two stores of which one comes of the other by
    reading. -/
theorem ReadsTo.related {R : Store → Store → Prop} [IsPreorder Store R] (hst : e.ReadsTo s t)
    (hread : ∀ c l, Along R (e.registry.attempt e.hierarchy e.sender c l)) : R s t := by
  induction hst with
  | refl => exact refl_of R s
  | tail _ hstep ih =>
    obtain ⟨c, l, rfl⟩ := hstep
    exact trans_of R ih (hread c l _)

theorem ReadsTo.leavesAlone (hst : e.ReadsTo s t) : e.LeavesAlone s t where
  reads := hst
  unchanged f hread := by
    induction hst with
    | refl => rfl
    | tail _ hstep ih =>
      obtain ⟨c, l, rfl⟩ := hstep
      exact (hread c l _).trans ih
  untouched server? hr := by
    refine hst.related (R := InvImage Realm.Untouched Store.realm) fun c l => ?_
    rw [hr]
    exact Registry.untouched_attempt server? _ _ c l

/-! ## Before a call -/

section

variable {token : String} {rest : List String} {v : Value} {halt : Halt} {k : Call}

/-- Nothing is done before a call but reading its literals. -/
theorem readsTo_of_next (hk : e.next token rest v s = .ok k) : e.ReadsTo s k.store := by
  obtain ⟨-, -, hr, -⟩ := next_eq_ok_iff.1 hk
  have hreads := e.readsTo_attemptEach k.method.params rest s
  rwa [hr] at hreads

/-- Nor is anything else done where the call is not made. -/
theorem readsTo_of_next_error (hk : e.next token rest v s = .error (halt, t)) : e.ReadsTo s t := by
  cases v with
  | none => cases hk; exact .refl
  | some recv =>
    rw [next] at hk
    split at hk
    · cases hk; exact .refl
    · rename_i m _
      have hreads := e.readsTo_attemptEach m.params rest s
      rw [prepare, collect] at hk
      -- Whichever check fails, it comes after the literals have been read.
      rcases hr : e.registry.attemptEach e.hierarchy e.sender m.params rest s with
        ⟨cause | args, u⟩ <;> rw [hr] at hk hreads
      · cases hk; exact hreads
      · by_cases hlength : args.length = m.params.length
        · simp only [hlength, if_true] at hk
          split at hk <;> cases hk
          exact hreads
        · simp only [hlength, if_false] at hk
          cases hk
          exact hreads

end

/-! ## Room for conversions -/

/-- The engine with room for another number of conversions inside one another. -/
def withRoom (e : Engine) (n : Nat) : Engine := { e with registry := e.registry.withRoom n }

/-- A walk is the same however much room there is, if there is enough. -/
theorem run_withRoom {n m : Nat} (hs : e.registry.Settles e.hierarchy e.sender n)
    (hroom : n ≤ e.registry.room) (hm : n ≤ m) (tokens : List String) (v : Value) (s : Store) :
    (e.withRoom m).run tokens v s = e.run tokens v s := by
  have hattempt : (e.registry.withRoom m).attempt e.hierarchy e.sender =
      e.registry.attempt e.hierarchy e.sender := hs.attempt_withRoom hroom hm
  have heach (cs : List Class) (ls : List String) :
      (e.registry.withRoom m).attemptEach e.hierarchy e.sender cs ls =
        e.registry.attemptEach e.hierarchy e.sender cs ls := by
    induction cs generalizing ls with
    | nil => rfl
    | cons c cs ih => cases ls <;> simp only [Registry.attemptEach, hattempt, ih]
  refine @run_congr e (e.withRoom m) rfl (fun token rest v s => ?_) tokens v s
  cases v with
  | none => rfl
  | some recv =>
    have hprepare (method : Method) :
        (e.withRoom m).prepare token method rest recv s = e.prepare token method rest recv s := by
      have hcollect : (e.withRoom m).collect token method rest s =
          e.collect token method rest s := by
        rw [collect, collect, ← heach]
        rfl
      rw [prepare, prepare, hcollect]
      rfl
    simp only [next, hprepare]
    rfl

end Engine

end Chainwalk
