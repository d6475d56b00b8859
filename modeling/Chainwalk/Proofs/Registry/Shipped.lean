import Chainwalk.Proofs.Registry.Changes
import Chainwalk.Proofs.Typing.Classes

/-!
# The registries of the library

The registries that come with the library are made of the handlers of plain values, alone or
followed by those of the residents of a server. Only two of these go back to the registry, and only
for classes whose handlers do not, so there need be room for two conversions inside one another and
no more: with that, reading in these registries is the recursion that nothing bounds.

* `Registry.coherent_shipped`: the registries of the library are in order;
* `Registry.settles_shipped`: room for two conversions inside one another is enough;
* `Registry.shipped_attempt_eq`: reading by the handler of the class.
-/

namespace Chainwalk

namespace Registry

/-- The handlers that a registry of the library is made of. -/
def shippedHandlers : Option (Ref .server) → List Handler
  | none => plainHandlers
  | some s => plainHandlers ++ residentHandlers s

/-- The input handlers among them, one by one. -/
@[elab_as_elim]
theorem cases_of_mem_shippedHandlers {motive : InputHandler → Prop}
    (scalar : ∀ k, motive (scalarInput k)) (array : ∀ k, motive (arrayInput k))
    (enumeration : motive enumerationInput) (collection : motive collectionInput)
    (world : ∀ s, motive (worldInput s)) (player : ∀ s, motive (playerInput s))
    (entity : ∀ s, motive (entityInput s)) (location : ∀ s, motive (locationInput s))
    (block : ∀ s, motive (blockInput s)) (itemStack : motive itemStackInput)
    {server? : Option (Ref .server)} {i : InputHandler} (hi : .input i ∈ shippedHandlers server?) :
    motive i := by
  have hplain (hi : .input i ∈ plainHandlers) : motive i := by
    simp only [plainHandlers, List.mem_append, List.mem_map, List.mem_cons, List.not_mem_nil,
      Handler.input.injEq, reduceCtorEq, and_false, exists_false, or_false, false_or] at hi
    rcases hi with (⟨k, -, rfl⟩ | ⟨k, -, rfl⟩) | rfl | rfl
    · exact scalar k
    · exact array k
    · exact enumeration
    · exact collection
  cases server? with
  | none => exact hplain hi
  | some s =>
    rcases List.mem_append.1 hi with hi | hi
    · exact hplain hi
    · simp only [residentHandlers, List.mem_cons, List.not_mem_nil, Handler.input.injEq,
        reduceCtorEq, or_false] at hi
      rcases hi with rfl | rfl | rfl | rfl | rfl | rfl
      · exact world s
      · exact player s
      · exact entity s
      · exact location s
      · exact block s
      · exact itemStack

theorem shipped_eq_after (server? : Option (Ref .server)) :
    shipped server? = empty.after ((shippedHandlers server?).map .register) := by
  cases server? with
  | none => exact registerAll_eq_after empty plainHandlers
  | some s =>
    rw [shippedHandlers, List.map_append, after, List.foldl_append]
    change (plain.registerAll (residentHandlers s)).2 = _
    rw [registerAll_eq_after, plain, withPlain, registerAll_eq_after]
    rfl

theorem coherent_shipped (server? : Option (Ref .server)) :
    ∃ ks ⊆ shippedHandlers server?, (shipped server?).Coherent ks := by
  have hnames : ((shippedHandlers server?).map Change.register).flatMap Change.handlers =
      shippedHandlers server? := by
    simp [List.flatMap_map, Change.handlers]
  -- Their identities are their classes, on either side.
  have hsteady : Handler.Steady (shippedHandlers server?) := by
    cases server? with
    | none => decide
    | some s => exact of_decide_eq_true rfl
  have hsub := acceptedIn_subset empty ((shippedHandlers server?).map .register)
  rw [hnames] at hsub
  refine ⟨_, hsub, ?_⟩
  rw [shipped_eq_after]
  exact coherent_empty.after (by rwa [List.nil_append, hnames])

theorem mem_shippedHandlers_of_inputFor? {server? : Option (Ref .server)} {h : Hierarchy}
    {c : Class} {i : InputHandler} (hi : (shipped server?).inputFor? h c = some i) :
    .input i ∈ shippedHandlers server? := by
  have hmem : .input i ∈ (shipped server?).handlers :=
    List.mem_append_left _ (List.mem_map_of_mem (mem_of_inputFor? hi))
  cases server? with
  | none => exact (mem_handlers_registerAll hmem).resolve_right fun hm => by cases hm
  | some s =>
    rcases mem_handlers_registerAll hmem with hm | hm
    · exact List.mem_append_right _ hm
    · refine List.mem_append_left _ ?_
      exact (mem_handlers_registerAll hm).resolve_right fun hm => by cases hm

end Registry

/-! ## What handlers ask of the registry -/

/-- A handler that goes back to the registry for no other classes than these. -/
def InputHandler.AsksFor (i : InputHandler) (ds : List Class) : Prop :=
  ∀ h sender literal c nested nested', (∀ d ∈ ds, nested d = nested' d) →
    i.convert h sender nested literal c = i.convert h sender nested' literal c

namespace InputHandler

theorem asksFor_collectionInput : collectionInput.AsksFor [.string] := by
  intro h sender literal c nested nested' hn
  simp only [collectionInput, hn .string List.mem_cons_self]

theorem asksFor_itemStackInput : itemStackInput.AsksFor [.material] := by
  intro h sender literal c nested nested' hn
  simp only [itemStackInput, hn .material List.mem_cons_self]

theorem AsksFor.mono {i : InputHandler} {ds ds' : List Class} (hi : i.AsksFor ds)
    (hsub : ds ⊆ ds') : i.AsksFor ds' :=
  fun h sender literal c _ _ hn => hi h sender literal c _ _ fun d hd => hn d (hsub hd)

/-- Strings and materials are all that the handlers of the library ask for. -/
theorem asksFor_of_mem_shippedHandlers {server? : Option (Ref .server)} {i : InputHandler}
    (hi : .input i ∈ Registry.shippedHandlers server?) : i.AsksFor [.string, .material] := by
  refine Registry.cases_of_mem_shippedHandlers ?scalar ?array ?enumeration ?collection ?world
    ?player ?entity ?location ?block ?itemStack hi
  case collection => exact asksFor_collectionInput.mono (by simp)
  case itemStack => exact asksFor_itemStackInput.mono (by simp)
  -- No other handler goes back to the registry.
  case enumeration => exact fun _ _ _ _ _ _ _ => rfl
  all_goals exact fun _ _ _ _ _ _ _ _ => rfl

end InputHandler

namespace Registry

/-! ## How deep readings go -/

variable {server? : Option (Ref .server)} {h : Hierarchy} {sender : Option Sender}

/-- What is registered for the class itself comes first. -/
theorem inputFor?_of_registered? {r : Registry} {c : Class} {i : InputHandler}
    (hi : r.registered? c = some i) : r.inputFor? h c = some i := by
  rw [inputFor?, hi, Option.some_or]

theorem registered?_shipped_string (server? : Option (Ref .server)) :
    (shipped server?).registered? .string = some (scalarInput .string) := by
  cases server? <;> cbv

theorem inputFor?_shipped_string :
    (shipped server?).inputFor? h .string = some (scalarInput .string) :=
  inputFor?_of_registered? (registered?_shipped_string server?)

/-- Materials have no handler of their own, and that of all enumerations comes first in the list. -/
theorem inputFor?_shipped_material :
    (shipped server?).inputFor? h .material = some enumerationInput := by
  have hnone : (shipped server?).registered? .material = none := by
    cases server? <;> cbv
  have hfirst : (shipped server?).polymorphic =
      enumerationInput :: collectionInput :: server?.toList.map entityInput := by
    cases server? <;> cbv
  rw [inputFor?, hnone, hfirst, Option.none_or]
  exact List.find?_cons_of_pos (h.isA_builtins_iff.2 (by decide))

/-- Where nothing more is asked for, room for one conversion is as good as room for many. -/
theorem attemptWithin_shipped_asked {d : Class} (hd : d ∈ [Class.string, .material])
    (depth : Nat) (part : String) :
    (shipped server?).attemptWithin h sender (depth + 1) d part =
      (shipped server?).attemptWithin h sender 1 d part := by
  rw [attemptWithin_succ, attemptWithin_succ]
  rcases List.mem_pair.1 hd with rfl | rfl
  · rw [inputFor?_shipped_string]
    rfl
  · rw [inputFor?_shipped_material]
    rfl

/-- Room for two conversions inside one another is enough. -/
theorem settles_shipped (server? : Option (Ref .server)) (h : Hierarchy)
    (sender : Option Sender) : (shipped server?).Settles h sender 2 := by
  funext c literal
  rw [attemptWithin_succ, attemptWithin_succ]
  cases hi : (shipped server?).inputFor? h c with
  | none => rfl
  | some i =>
    have hasks := InputHandler.asksFor_of_mem_shippedHandlers (mem_shippedHandlers_of_inputFor? hi)
    have hnested (d : Class) (hd : d ∈ [Class.string, .material]) :
        (shipped server?).nestedWithin h sender 2 d =
          (shipped server?).nestedWithin h sender 1 d := by
      funext part
      rw [nestedWithin, nestedWithin, attemptWithin_shipped_asked hd]
    dsimp only
    rw [hasks h sender literal c _ _ hnested]

theorem two_le_room_shipped (server? : Option (Ref .server)) : 2 ≤ (shipped server?).room := by
  cases server? <;> cbv

/-- A literal is read by the handler of its class, which has literals read in its turn. -/
theorem shipped_attempt_eq (c : Class) (literal : String) :
    (shipped server?).attempt h sender c literal =
      if literal = nullToken then pure none
      else
        match (shipped server?).inputFor? h c with
        | none => throw ⟨.noHandler (h.path c)⟩
        | some i =>
          ExceptT.adapt ConversionFault.wrap (i.convert h sender
            (fun d part => ((shipped server?).attempt h sender d part).toAct) literal c) :=
  (settles_shipped server? h sender).attempt_eq (two_le_room_shipped server?) c literal

end Registry

end Chainwalk
