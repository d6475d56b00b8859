import Chainwalk.Proofs.Registry.Shipped
import Chainwalk.Proofs.Typing.Classes

/-!
# Conversions and classes

A registry reads a literal of a class as an object of that class, whichever handler it asks: one
registered for the class gives an object of just that class, and one that serves every class below
its own makes sure that what it gives lies below the class asked for.

* `Act.Gives`: what a conversion gives, if it gives anything;
* `InputHandler.Sound`: a handler gives objects of the class that it is asked for;
* `Registry.Coherent.attempt_cases`: reading in a registry of sound handlers;
* `Registry.instantiate_shipped`: reading in the registries that come with the library.
-/

namespace Chainwalk

/-- A conversion that gives nothing but what has the property. -/
def Act.Gives {α : Type} (P : α → Prop) (a : Act α) : Prop :=
  ∀ s v t, a s = (.ok v, t) → P v

namespace Act.Gives

variable {α β : Type} {P : α → Prop} {Q : β → Prop}

theorem pure {a : α} (ha : P a) : Gives P (Pure.pure a) := by
  rintro s v t hv
  cases hv
  exact ha

theorem throw (fault : Fault) : Gives P (MonadExcept.throw fault) := by
  rintro s v t hv
  cases hv

theorem bind {a : Act α} {k : α → Act β} (ha : Gives P a) (hk : ∀ x, P x → Gives Q (k x)) :
    Gives Q (a >>= k) := by
  intro s v t hv
  rw [bind_apply] at hv
  rcases hx : a s with ⟨fault | x, u⟩
  · rw [hx] at hv
    cases hv
  · rw [hx] at hv
    exact hk x (ha s x u hx) u v t hv

/-- Nothing has to be known of what comes first. -/
theorem after {a : Act α} {k : α → Act β} (hk : ∀ x, Gives Q (k x)) : Gives Q (a >>= k) :=
  bind (P := fun _ => True) (fun _ _ _ _ => trivial) fun x _ => hk x

theorem orElse {v : Option α} (hv : ∀ a ∈ v, P a) (fault : Fault) :
    Gives P (Act.orElse v fault) := by
  cases v with
  | none => exact throw fault
  | some a => exact pure (hv a rfl)

end Act.Gives

namespace Hierarchy

/-- An object that may stand where the class is expected. -/
def IsInstance (h : Hierarchy) (c : Class) (v : Value) : Prop :=
  ∃ o, v = some o ∧ h.isA o.class_ c

theorem class_of_mem_constants {h : Hierarchy} {c : Class} {k : Constant}
    (hk : k ∈ h.constants c) : k.class_ = c := by
  rw [constants.eq_def] at hk
  split at hk
  · obtain ⟨m, -, rfl⟩ := List.mem_map.1 hk
    rfl
  · obtain ⟨m, -, rfl⟩ := List.mem_map.1 hk
    rfl
  · obtain ⟨m, -, rfl⟩ := List.mem_map.1 hk
    rfl
  · obtain ⟨m, -, rfl⟩ := List.mem_map.1 hk
    rfl
  · cases hk
  · obtain ⟨m, -, rfl⟩ := List.mem_map.1 hk
    rfl

end Hierarchy

/-- A new value is an object of its class. -/
theorem Act.gives_new {h : Hierarchy} {c : Class} {d : Datum} (hd : h.isA d.class_ c) :
    (new d).Gives (h.IsInstance c) := by
  rintro s v t hv
  cases hv
  exact ⟨_, rfl, hd⟩

/-! ## Handlers -/

namespace InputHandler

/-- Whether a handler may be asked for a class: its own, or one below it if it is polymorphic. -/
def Serves (i : InputHandler) (h : Hierarchy) (c : Class) : Prop :=
  i.relevant = c ∨ i.polymorphic ∧ h.isA c i.relevant

/-- A handler that gives objects of the class that it is asked for. -/
def Sound (i : InputHandler) : Prop :=
  ∀ h sender nested literal c, i.Serves h c →
    (i.convert h sender nested literal c).Gives (h.IsInstance c)

/-- A handler that is not polymorphic is asked for its own class only. -/
theorem sound_of_exact {i : InputHandler} (hp : i.polymorphic = false)
    (hi : ∀ h sender nested literal,
      (i.convert h sender nested literal i.relevant).Gives (h.IsInstance i.relevant)) :
    i.Sound := by
  rintro h sender nested literal c (rfl | ⟨hp', -⟩)
  · exact hi h sender nested literal
  · rw [hp] at hp'
    cases hp'

theorem sound_scalarInput (k : ScalarKind) : (scalarInput k).Sound :=
  sound_of_exact rfl fun h _ _ _ => .after fun _ => Act.gives_new (h.isA_self _)

theorem sound_arrayInput (k : ScalarKind) : (arrayInput k).Sound :=
  sound_of_exact rfl fun h _ _ _ => .after fun _ => Act.gives_new (h.isA_self _)

/-- A constant is one of the class asked for. -/
theorem sound_enumerationInput : enumerationInput.Sound := by
  intro h sender nested literal c _
  refine .bind (P := fun k => k.class_ = c) (.orElse (fun k hk => ?_) _) fun k hk => ?_
  · exact Hierarchy.class_of_mem_constants (List.mem_of_find?_eq_some hk)
  · refine Act.gives_new ?_
    rw [show (Datum.constant k).class_ = c from hk]
    exact h.isA_self c

/-- Lists are made for classes of lists only. -/
theorem sound_collectionInput : collectionInput.Sound := by
  intro h sender nested literal c _
  simp only [collectionInput]
  -- Any other class is refused before an element is read.
  split
  · exact .bind (P := fun _ => False) (.throw _) fun _ hf => hf.elim
  · rename_i hlist
    have hlist : h.isA .arrayList c := by simpa using hlist
    refine .after fun elements s v t hv => ?_
    cases hv
    exact ⟨_, rfl, hlist⟩

theorem sound_worldInput (s : Ref .server) : (worldInput s).Sound :=
  sound_of_exact rfl fun h _ _ _ => .after fun _ => .after fun r =>
    .pure ⟨.world r, rfl, h.isA_self _⟩

theorem sound_playerInput (s : Ref .server) : (playerInput s).Sound :=
  sound_of_exact rfl fun h _ _ _ => .after fun _ => .after fun r =>
    .pure ⟨.player r, rfl, h.isA_self _⟩

/-- An entity is given for a class that it belongs to only. -/
theorem sound_entityInput (s : Ref .server) : (entityInput s).Sound := by
  intro h sender nested literal c _
  refine .after fun _ => .after fun e => ?_
  dsimp only
  -- The name may be that of a mob where a player is asked for, or the other way round.
  split
  · exact .bind (P := fun _ => False) (.throw _) fun _ hf => hf.elim
  · rename_i hentity
    exact .pure ⟨_, rfl, by simpa using hentity⟩

theorem sound_locationInput (s : Ref .server) : (locationInput s).Sound :=
  sound_of_exact rfl fun h _ _ _ => .after fun _ => .after fun _ =>
    Act.gives_new (h.isA_self _)

theorem sound_blockInput (s : Ref .server) : (blockInput s).Sound :=
  sound_of_exact rfl fun h _ _ _ => .after fun _ => .after fun _ =>
    Act.gives_new (h.isA_self _)

/-- The nested literal only decides which stack is made. -/
theorem sound_itemStackInput : itemStackInput.Sound :=
  sound_of_exact rfl fun h _ _ _ => .after fun _ => .after fun _ => .after fun _ =>
    .after fun _ => .after fun r => .pure ⟨.stack r, rfl, h.isA_self _⟩

theorem sound_of_mem_shippedHandlers {server? : Option (Ref .server)} {i : InputHandler}
    (hi : .input i ∈ Registry.shippedHandlers server?) : i.Sound :=
  Registry.cases_of_mem_shippedHandlers sound_scalarInput sound_arrayInput sound_enumerationInput
    sound_collectionInput sound_worldInput sound_playerInput sound_entityInput sound_locationInput
    sound_blockInput sound_itemStackInput hi

end InputHandler

namespace Registry

/-! ## Reading -/

section

variable {r : Registry} {ks : List Handler} {h : Hierarchy} {sender : Option Sender}

/-- In a registry that is in order a class is given to a handler that may be asked for it. -/
theorem Coherent.serves_of_inputFor? (hr : r.Coherent ks) {c : Class} {i : InputHandler}
    (hi : r.inputFor? h c = some i) : .input i ∈ ks ∧ i.Serves h c := by
  rcases (inputFor?_eq_some_iff hr h c).1 hi with hi | ⟨-, before, after, heq, hc, -⟩
  · exact ⟨hr.input_mem _ hi, .inl (hr.relevant_eq _ hi)⟩
  · have hmem : i ∈ r.polymorphic := by simp [heq]
    exact ⟨hr.input_mem_of_mem_polymorphic hmem, .inr ⟨((hr.mem_polymorphic i).1 hmem).1, hc⟩⟩

theorem attempt_nullToken (r : Registry) (c : Class) :
    r.attempt h sender c nullToken = pure none := by
  rw [attempt]
  cases r.room with
  | zero => rw [attemptWithin_zero, if_pos rfl]
  | succ depth => rw [attemptWithin_succ, if_pos rfl]

/-- A literal is read as null, if it is the one that stands for it, or as an object of the class.
    Nothing has to be known of the nested conversions. -/
theorem Coherent.attempt_cases (hr : r.Coherent ks) (hs : ∀ i, .input i ∈ ks → i.Sound)
    {c : Class} {literal : String} {v : Value} {s t : Store}
    (hv : r.attempt h sender c literal s = (.ok v, t)) :
    literal = nullToken ∧ v = none ∧ s = t ∨ literal ≠ nullToken ∧ h.IsInstance c v := by
  by_cases hnull : literal = nullToken
  · rw [hnull, attempt_nullToken] at hv
    cases hv
    exact .inl ⟨hnull, rfl, rfl⟩
  · refine .inr ⟨hnull, ?_⟩
    -- Without a handler, or without room left for it, nothing is read.
    rw [attempt] at hv
    cases hroom : r.room with
    | zero =>
      rw [hroom, attemptWithin_zero, if_neg hnull] at hv
      cases hi : r.inputFor? h c <;> rw [hi] at hv <;> cases hv
    | succ depth =>
      rw [hroom, attemptWithin_succ, if_neg hnull] at hv
      cases hi : r.inputFor? h c with
      | none =>
        rw [hi] at hv
        cases hv
      | some i =>
        obtain ⟨hmem, hserves⟩ := hr.serves_of_inputFor? hi
        have hgives := hs i hmem h sender (r.nestedWithin h sender depth) literal c hserves
        rw [hi] at hv
        dsimp only at hv
        rw [adapt_apply] at hv
        rcases hconvert : i.convert h sender (r.nestedWithin h sender depth) literal c s with
          ⟨fault | w, u⟩
        · rw [hconvert] at hv
          cases hv
        · rw [hconvert] at hv
          cases hv
          exact hgives s _ _ hconvert

end

section

variable {server? : Option (Ref .server)} {h : Hierarchy} {sender : Option Sender} {c : Class}
  {literal : String} {v : Value} {s t : Store}

theorem shipped_attempt_cases (hv : (shipped server?).attempt h sender c literal s = (.ok v, t)) :
    literal = nullToken ∧ v = none ∧ s = t ∨ literal ≠ nullToken ∧ h.IsInstance c v := by
  obtain ⟨ks, hks, hr⟩ := coherent_shipped server?
  exact hr.attempt_cases (fun i hi => InputHandler.sound_of_mem_shippedHandlers (hks hi)) hv

/-- What the registries of the library read fits the class that it is read as. -/
theorem fits_of_shipped_attempt (hv : (shipped server?).attempt h sender c literal s = (.ok v, t)) :
    h.Fits c v := by
  rcases shipped_attempt_cases hv with ⟨-, rfl, -⟩ | ⟨-, o, rfl, ho⟩
  · exact h.fits_none c
  · exact h.fits_some.2 ho

end

/-- In the registries that come with the library exactly one literal is read as null, whatever the
    class, and any other one that is read at all is read as an object of the class or of one below
    it, whether the class is built in or a host has defined it. -/
theorem instantiate_shipped (server? : Option (Ref .server)) (h : Hierarchy)
    (sender : Option Sender) (c : Class) (literal : String) (s : Store) :
    (∀ t, (shipped server?).instantiate h sender c literal s = .ok (none, t) ↔
      literal = nullToken ∧ s = t) ∧
    ∀ o t, (shipped server?).instantiate h sender c literal s = .ok (some o, t) →
      h.isA o.class_ c := by
  simp only [instantiate, Attempt.answer_eq_ok_iff]
  refine ⟨fun t => ⟨fun hv => ?null, ?nullToken⟩, fun o t hv => ?object⟩
  case null =>
    rcases shipped_attempt_cases hv with ⟨hnull, -, hst⟩ | ⟨-, o, ho, -⟩
    · exact ⟨hnull, hst⟩
    · -- What is read by a handler is not null.
      cases ho
  case nullToken =>
    rintro ⟨rfl, rfl⟩
    rw [attempt_nullToken]
    rfl
  case object =>
    exact h.fits_some.1 (fits_of_shipped_attempt hv)

/-- A constant of a class that a host has defined. -/
theorem instantiate_shipped_suit :
    let h : Hierarchy := ⟨#[.extending [.enumeration]
      (.ofConstants "Suit" "cards::Suit" ["HEARTS", "SPADES"])], by decide⟩
    let spades : Object := .value 0 (.constant (.defined 0 1 "SPADES"))
    (shipped none).instantiate h none (.defined 0) " spades " .empty =
      .ok (some spades, { Store.empty with supply := 1 }) ∧ h.isA spades.class_ (.defined 0) := by
  intro h spades
  have hread : (shipped none).instantiate h none (.defined 0) " spades " .empty =
      .ok (some spades, { Store.empty with supply := 1 }) := by
    cbv
  exact ⟨hread, (instantiate_shipped none h none _ _ _).2 _ _ hread⟩

end Registry

end Chainwalk
