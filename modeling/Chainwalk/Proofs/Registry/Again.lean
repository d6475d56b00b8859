import Chainwalk.Proofs.Registry.Changes

/-!
# Handlers that come again

The handlers of the library can be registered in a registry that has handlers already, and a second
time in the same registry. Handlers that stand at different places, each on its side and for its
class, do not get in one another's way, so a list of them is registered as if all came at once. When
they come a second time only the polymorphic ones among them are accepted: each of them takes the
place of the one before, and they come to the end of the list once more, in the same order. So the
registry is as it was, except that the new handlers are not the old ones but others like them.

* `Registry.admits`, `Registry.admits_register`: which handlers a registry would accept;
* `Registry.Expects`, `Registry.Expects.induction`: a registry and handlers that are to come to it;
* `registered?_registerAll`, `polymorphic_registerAll`, `outputs_registerAll`: what they leave;
* `Handler.Alike`, `Registry.Alike`: handlers, and registries, that differ in identities only;
* `Registry.Keeps`: a registry in which nothing was replaced that is not polymorphic;
* `Registry.Expects.alike_again`: handlers that come again;
* `Registry.bootstrap_again`: the handlers of plain values and those of the residents of a server.
-/

namespace Chainwalk

/-! ## Places -/

namespace Handler

/-- Where a handler stands: on its side, for its class. -/
def place : Handler → Class ⊕ Class
  | input i => .inl i.relevant
  | output o => .inr o.relevant

/-- Whether a handler gives way to a new one for its class. -/
def givesWay : Handler → Bool
  | input i => i.polymorphic
  | output _ => false

/-- The input handlers among these. -/
def inputs (ks : List Handler) : List InputHandler := ks.filterMap input?

/-- The output handlers among these. -/
def outputs (ks : List Handler) : List OutputHandler := ks.filterMap output?

variable {ks : List Handler} {i : InputHandler} {o : OutputHandler}

@[simp] theorem inputs_nil : inputs [] = [] := rfl

@[simp] theorem outputs_nil : outputs [] = [] := rfl

@[simp] theorem inputs_cons_input : inputs (.input i :: ks) = i :: inputs ks := rfl

@[simp] theorem inputs_cons_output : inputs (.output o :: ks) = inputs ks := rfl

@[simp] theorem outputs_cons_input : outputs (.input i :: ks) = outputs ks := rfl

@[simp] theorem outputs_cons_output : outputs (.output o :: ks) = o :: outputs ks := rfl

theorem mem_inputs_iff : i ∈ inputs ks ↔ .input i ∈ ks := by
  induction ks with
  | nil => simp
  | cons k ks ih => cases k <;> simp [ih]

theorem mem_outputs_iff : o ∈ outputs ks ↔ .output o ∈ ks := by
  induction ks with
  | nil => simp
  | cons k ks ih => cases k <;> simp [ih]

/-- Only input handlers give way. -/
theorem outputs_filter_givesWay (ks : List Handler) :
    outputs (ks.filter givesWay) = [] := by
  induction ks with
  | nil => rfl
  | cons k ks ih =>
    cases k with
    | input i => rw [List.filter_cons]; split <;> exact ih
    | output o => exact ih

theorem inputs_filter_givesWay (ks : List Handler) :
    inputs (ks.filter givesWay) = (inputs ks).filter (·.polymorphic) := by
  induction ks with
  | nil => rfl
  | cons k ks ih =>
    cases k with
    | input i =>
      rw [List.filter_cons, inputs_cons_input, List.filter_cons, ← ih]
      cases hp : i.polymorphic <;> simp [givesWay, hp]
    | output o => exact ih

end Handler

namespace Registry

variable {r : Registry} {ks boot : List Handler} {k k' : Handler} {c : Class} {i : InputHandler}

/-! ## What a registry accepts -/

/-- Whether a handler would be accepted: no other one stands at its place that does not give way. -/
def admits (r : Registry) : Handler → Bool
  | .input i => (r.registered? i.relevant).all (·.polymorphic)
  | .output o => !r.outputs.any (·.relevant = o.relevant)

theorem admits_congr (hplace : k.place = k'.place) : r.admits k = r.admits k' := by
  cases k <;> cases k' <;> simp_all [Handler.place, admits]

theorem fst_register (r : Registry) (k : Handler) : (r.register k).1 = r.admits k := by
  cases k with
  | input i =>
    rw [register, admits]
    rcases r.registered? i.relevant with _ | old
    · rfl
    · cases hp : old.polymorphic <;> simp [hp]
  | output o =>
    rw [register, admits]
    split <;> simp_all

theorem register_of_not_admits (hk : r.admits k = false) : r.register k = (false, r) := by
  have hrefused : (r.apply (.register k)).1 = false := (fst_register r k).trans hk
  exact Prod.ext hrefused (apply_of_eq_false hrefused)

theorem register_output_of_admits {o : OutputHandler} (ho : r.admits (.output o)) :
    (r.register (.output o)).2 = { r with outputs := r.outputs ++ [o] } := by
  rw [register, if_neg (by simpa [admits] using ho)]

@[simp] theorem outputs_register_input (r : Registry) (i : InputHandler) :
    (r.register (.input i)).2.outputs = r.outputs := by
  rw [register]
  split
  · split <;> rfl
  · rfl

theorem exact_register_of_admits (hi : r.admits (.input i)) :
    (r.register (.input i)).2.exact = (r.vacate i.relevant).exact ++ [(i.relevant, i)] := by
  rw [register]
  rw [admits] at hi
  rcases hold : r.registered? i.relevant with _ | old
  · rfl
  · rw [hold, Option.all_some] at hi
    simp [hi, install, vacate, forget]

namespace Coherent

/-- A handler that is accepted is the one for its class. -/
theorem registered?_register (hr : r.Coherent ks) (hs : Handler.Steady (ks ++ [.input i]))
    (hi : r.admits (.input i)) (c : Class) :
    (r.register (.input i)).2.registered? c =
      if i.relevant = c then some i else r.registered? c := by
  ext j
  rw [(hr.register hs).registered?_eq_some_iff, exact_register_of_admits hi, vacate,
    List.mem_append, List.mem_filter, List.mem_singleton, Prod.mk.injEq]
  split
  · rename_i hc
    subst hc
    simp [eq_comm]
  · rename_i hc
    simp [hr.registered?_eq_some_iff, Ne.symm hc]

/-- The handlers in the list whose class is another one. -/
theorem filter_id_eq (hr : r.Coherent ks) (hs : Handler.Steady ks) {old : InputHandler}
    (hold : (c, old) ∈ r.exact) :
    r.polymorphic.filter (·.id ≠ old.id) = r.polymorphic.filter (·.relevant ≠ c) := by
  have hclass : old.relevant = c := hr.relevant_eq _ hold
  refine List.filter_congr fun j hj => ?_
  obtain ⟨-, hmem⟩ := (hr.mem_polymorphic j).1 hj
  have hiff : j.id = old.id ↔ j.relevant = c := by
    constructor
    · intro hid
      rw [hs.input_relevant_eq (hr.input_mem _ hmem) (hr.input_mem _ hold) hid, hclass]
    · intro hjc
      have heq : j = old := hr.eq_of_mem (hjc ▸ hmem) hold
      rw [heq]
  simp only [ne_eq, hiff]

theorem polymorphic_register (hr : r.Coherent ks) (hs : Handler.Steady ks)
    (hi : r.admits (.input i)) :
    (r.register (.input i)).2.polymorphic =
      r.polymorphic.filter (·.relevant ≠ i.relevant) ++ [i].filter (·.polymorphic) := by
  have hnew (t : Registry) : (t.install i).polymorphic =
      t.polymorphic ++ [i].filter (·.polymorphic) := by
    rw [Registry.install]
    cases hp : i.polymorphic <;> simp [hp]
  rw [Registry.register]
  rw [admits] at hi
  rcases hold : r.registered? i.relevant with _ | old
  · -- A handler in the list would stand in the table as well.
    have hall : r.polymorphic.filter (·.relevant ≠ i.relevant) = r.polymorphic := by
      refine List.filter_eq_self.2 fun j hj => decide_eq_true fun hjc => ?_
      exact registered?_eq_none_iff.1 hold j (hjc ▸ ((hr.mem_polymorphic j).1 hj).2)
    rw [hall]
    exact hnew r
  · rw [hold, Option.all_some] at hi
    dsimp only
    rw [if_pos hi, hnew, forget, hr.filter_id_eq hs (mem_exact_of_registered? hold)]

end Coherent

/-- What is registered does not change what is accepted at another place. -/
theorem admits_register (hr : r.Coherent ks) (hs : Handler.Steady (ks ++ [k]))
    (hplace : k'.place ≠ k.place) : (r.register k).2.admits k' = r.admits k' := by
  by_cases hk : r.admits k
  · cases k with
    | input i =>
      cases k' with
      | input j =>
        have hclass : i.relevant ≠ j.relevant := fun h => hplace (congrArg Sum.inl h.symm)
        rw [admits, admits, hr.registered?_register hs hk, if_neg hclass]
      | output p => rw [admits, admits, outputs_register_input]
    | output o =>
      rw [register_output_of_admits hk]
      cases k' with
      | input j => rfl
      | output p =>
        have hclass : o.relevant ≠ p.relevant := fun h => hplace (congrArg Sum.inr h.symm)
        simp [admits, hclass]
  · rw [register_of_not_admits (by simpa using hk)]

theorem snd_registerAll_cons (r : Registry) (k : Handler) (boot : List Handler) :
    (r.registerAll (k :: boot)).2 = ((r.register k).2.registerAll boot).2 := rfl

/-! ## Handlers at different places -/

/-- A registry is in order after `ks`, and handlers are to come that have places of their own. -/
structure Expects (r : Registry) (ks boot : List Handler) : Prop where
  /-- The registry is in order. -/
  coherent : r.Coherent ks
  /-- The handlers that come have the classes that they had if they came before. -/
  steady : Handler.Steady (ks ++ boot)
  /-- No two of them stand at one place. -/
  places : (boot.map Handler.place).Nodup

/-- Handlers with places of their own come one after another, and each of them is refused or
    accepted. None of them changes which of the later ones are. -/
@[elab_as_elim]
theorem Expects.induction {motive : Registry → List Handler → Prop} (nil : ∀ r, motive r [])
    (refused : ∀ {r : Registry} {k : Handler} {boot : List Handler},
      r.admits k = false → motive r boot → motive r (k :: boot))
    (input : ∀ {r : Registry} {ks : List Handler} {i : InputHandler} {boot : List Handler},
      r.Coherent ks → Handler.Steady (ks ++ [.input i]) → r.admits (.input i) →
      (∀ j, .input j ∈ boot → j.relevant ≠ i.relevant) →
      boot.filter (r.register (.input i)).2.admits = boot.filter r.admits →
      motive (r.register (.input i)).2 boot → motive r (.input i :: boot))
    (output : ∀ {r : Registry} {o : OutputHandler} {boot : List Handler},
      r.admits (.output o) →
      boot.filter (r.register (.output o)).2.admits = boot.filter r.admits →
      motive (r.register (.output o)).2 boot → motive r (.output o :: boot))
    (he : r.Expects ks boot) : motive r boot := by
  obtain ⟨hr, hs, hplaces⟩ := he
  induction boot generalizing r ks with
  | nil => exact nil r
  | cons k boot ih =>
    obtain ⟨hnew, hplaces⟩ := List.nodup_cons.1 hplaces
    have hother : ∀ k' ∈ boot, k'.place ≠ k.place := fun k' hk' heq =>
      hnew (heq ▸ List.mem_map_of_mem hk')
    have hk : Handler.Steady (ks ++ [k]) := hs.mono (by simp)
    have haccepted : r.accepted (.register k) ⊆ [k] := accepted_subset r (.register k)
    have hsub : r.accepted (.register k) ++ boot ⊆ k :: boot :=
      List.append_subset.2 ⟨List.Subset.trans haccepted (by simp), List.subset_cons_self _ _⟩
    have hlater : Handler.Steady (ks ++ r.accepted (.register k) ++ boot) := by
      rw [List.append_assoc]
      exact hs.mono (List.append_subset.2
        ⟨List.subset_append_left _ _, List.Subset.trans hsub (List.subset_append_right _ _)⟩)
    have hfilter : boot.filter (r.register k).2.admits = boot.filter r.admits :=
      List.filter_congr fun k' hk' => admits_register hr hk (hother k' hk')
    have hrest : motive (r.register k).2 boot := ih (hr.register hk) hlater hplaces
    by_cases hadmits : r.admits k
    · cases k with
      | input i =>
        exact input hr hk hadmits (fun j hj heq => hother _ hj (congrArg Sum.inl heq)) hfilter hrest
      | output o => exact output hadmits hfilter hrest
    · have hadmits : r.admits k = false := by simpa using hadmits
      rw [register_of_not_admits hadmits] at hrest
      exact refused hadmits hrest

/-- The registry after a handler that is refused and others. -/
theorem snd_registerAll_of_not_admits (hk : r.admits k = false) (boot : List Handler) :
    (r.registerAll (k :: boot)).2 = (r.registerAll boot).2 := by
  rw [snd_registerAll_cons, register_of_not_admits hk]

namespace Expects

variable (he : r.Expects ks boot)

include he

/-- Those handlers are accepted that would be accepted alone. -/
theorem acceptedIn_register : r.acceptedIn (boot.map .register) = boot.filter r.admits := by
  refine Expects.induction ?nil ?refused ?input ?output he
  case nil => exact fun r => rfl
  case refused =>
    intro r k boot hk ih
    rw [List.map_cons, acceptedIn, accepted, apply, register_of_not_admits hk, ih,
      List.filter_cons_of_neg (by simp [hk])]
    rfl
  case input =>
    intro r ks i boot _ _ hi _ hlater ih
    rw [List.map_cons, acceptedIn, accepted, apply, ih, hlater, fst_register, if_pos hi,
      List.filter_cons_of_pos hi, List.singleton_append]
  case output =>
    intro r o boot ho hlater ih
    rw [List.map_cons, acceptedIn, accepted, apply, ih, hlater, fst_register, if_pos ho,
      List.filter_cons_of_pos ho, List.singleton_append]

/-- The handler for a class is the one that came for it and was accepted, or else the one that was
    there. -/
theorem registered?_registerAll (c : Class) : (r.registerAll boot).2.registered? c =
    ((Handler.inputs (boot.filter r.admits)).find? (·.relevant = c)).or (r.registered? c) := by
  refine Expects.induction ?nil ?refused ?input ?output he
  case nil => exact fun r => rfl
  case refused =>
    intro r k boot hk ih
    rw [snd_registerAll_of_not_admits hk, ih, List.filter_cons_of_neg (by simp [hk])]
  case input =>
    intro r ks i boot hr hs hi hother hlater ih
    rw [snd_registerAll_cons, ih, hlater, List.filter_cons_of_pos hi,
      hr.registered?_register hs hi, Handler.inputs_cons_input, List.find?_cons]
    by_cases hc : i.relevant = c
    · -- No later one comes for this class.
      have hnone : (Handler.inputs (boot.filter r.admits)).find? (·.relevant = c) = none := by
        refine List.find?_eq_none.2 fun j hj => ?_
        have hmem := (List.mem_filter.1 (Handler.mem_inputs_iff.1 hj)).1
        simpa [← hc] using hother j hmem
      simp [hc, hnone]
    · simp [hc]
  case output =>
    intro r o boot ho hlater ih
    rw [snd_registerAll_cons, ih, hlater, List.filter_cons_of_pos ho, register_output_of_admits ho]
    rfl

/-- The polymorphic handlers whose classes nothing accepted came for stay in their order, and those
    that were accepted follow in theirs. -/
theorem polymorphic_registerAll : (r.registerAll boot).2.polymorphic =
    r.polymorphic.filter
        (·.relevant ∉ (Handler.inputs (boot.filter r.admits)).map InputHandler.relevant) ++
      (Handler.inputs (boot.filter r.admits)).filter (·.polymorphic) := by
  refine Expects.induction ?nil ?refused ?input ?output he
  case nil => exact fun r => by simp [registerAll]
  case refused =>
    intro r k boot hk ih
    rw [snd_registerAll_of_not_admits hk, ih, List.filter_cons_of_neg (by simp [hk])]
  case input =>
    intro r ks i boot hr hs hi hother hlater ih
    have hks : Handler.Steady ks := hs.mono (List.subset_append_left _ _)
    -- The new handler stays in the list, for no later one comes for its class.
    have hkept : ([i].filter (·.polymorphic)).filter (·.relevant ∉
        (Handler.inputs (boot.filter r.admits)).map InputHandler.relevant) =
          [i].filter (·.polymorphic) := by
      refine List.filter_eq_self.2 fun j hj => decide_eq_true fun hmem => ?_
      obtain rfl := List.mem_singleton.1 (List.mem_filter.1 hj).1
      obtain ⟨l, hl, hclass⟩ := List.mem_map.1 hmem
      exact hother l (List.mem_filter.1 (Handler.mem_inputs_iff.1 hl)).1 hclass
    rw [snd_registerAll_cons, ih, hlater, List.filter_cons_of_pos hi,
      hr.polymorphic_register hks hi, List.filter_append, hkept, List.filter_filter,
      Handler.inputs_cons_input, List.append_assoc, ← List.filter_append, List.singleton_append,
      List.map_cons]
    simp only [List.mem_cons, not_or, Bool.decide_and, Bool.and_comm, ne_eq]
  case output =>
    intro r o boot ho hlater ih
    rw [snd_registerAll_cons, ih, hlater, List.filter_cons_of_pos ho, register_output_of_admits ho]
    rfl

/-- The output handlers stay, and those that were accepted follow. -/
theorem outputs_registerAll : (r.registerAll boot).2.outputs =
    r.outputs ++ Handler.outputs (boot.filter r.admits) := by
  refine Expects.induction ?nil ?refused ?input ?output he
  case nil => exact fun r => by simp [registerAll]
  case refused =>
    intro r k boot hk ih
    rw [snd_registerAll_of_not_admits hk, ih, List.filter_cons_of_neg (by simp [hk])]
  case input =>
    intro r ks i boot _ _ hi _ hlater ih
    rw [snd_registerAll_cons, ih, hlater, List.filter_cons_of_pos hi, outputs_register_input,
      Handler.outputs_cons_input]
  case output =>
    intro r o boot ho hlater ih
    rw [snd_registerAll_cons, ih, hlater, List.filter_cons_of_pos ho,
      register_output_of_admits ho, Handler.outputs_cons_output, List.append_assoc,
      List.singleton_append]

theorem coherent_registerAll :
    (r.registerAll boot).2.Coherent (ks ++ boot.filter r.admits) := by
  have hnames : (boot.map Change.register).flatMap Change.handlers = boot := by
    simp [List.flatMap_map, Change.handlers]
  rw [registerAll_eq_after, ← he.acceptedIn_register]
  exact he.coherent.after (by rw [hnames]; exact he.steady)

/-- The input handler among those accepted that came for a class, if its own handler did. -/
theorem find?_inputs_filter (p : Handler → Bool) (hi : .input i ∈ boot) :
    (Handler.inputs (boot.filter p)).find? (·.relevant = i.relevant) =
      if p (.input i) then some i else none := by
  -- No other one comes for this class.
  have honly {j : InputHandler} (hj : j ∈ Handler.inputs (boot.filter p))
      (hclass : j.relevant = i.relevant) : j = i ∧ p (.input i) := by
    obtain ⟨hj, hp⟩ := List.mem_filter.1 (Handler.mem_inputs_iff.1 hj)
    have heq := List.inj_on_of_nodup_map he.places hj hi (congrArg Sum.inl hclass)
    obtain rfl := Handler.input.inj heq
    exact ⟨rfl, hp⟩
  split
  · rename_i hp
    cases hfind : (Handler.inputs (boot.filter p)).find? (·.relevant = i.relevant) with
    | none =>
      have hmem := Handler.mem_inputs_iff.2 (List.mem_filter.2 ⟨hi, hp⟩)
      simpa using List.find?_eq_none.1 hfind i hmem
    | some j =>
      have hclass := List.find?_some hfind
      rw [(honly (List.mem_of_find?_eq_some hfind) (by simpa using hclass)).1]
  · rename_i hp
    refine List.find?_eq_none.2 fun j hj hclass => ?_
    exact hp (honly hj (by simpa using hclass)).2

/-- A class has the handler that was accepted for it. -/
theorem registered?_of_accepted (hi : i ∈ Handler.inputs (boot.filter r.admits)) :
    (r.registerAll boot).2.registered? i.relevant = some i := by
  obtain ⟨hmem, hadmits⟩ := List.mem_filter.1 (Handler.mem_inputs_iff.1 hi)
  rw [he.registered?_registerAll, he.find?_inputs_filter _ hmem, if_pos hadmits, Option.some_or]

end Expects

theorem fst_registerAll (r : Registry) (boot : List Handler) :
    (r.registerAll boot).1 = (r.acceptedIn (boot.map .register)).length := by
  induction boot generalizing r with
  | nil => rfl
  | cons k boot ih =>
    have hcount : (r.registerAll (k :: boot)).1 =
        if (r.register k).1 then ((r.register k).2.registerAll boot).1 + 1
        else ((r.register k).2.registerAll boot).1 := rfl
    rw [hcount, ih, List.map_cons, acceptedIn, accepted, apply]
    split <;> simp

end Registry

/-! ## Handlers that differ in identity -/

/-- The handler under another identity. -/
def InputHandler.anew (i : InputHandler) (id : HandlerId) : InputHandler := { i with id := id }

/-- The handler under another identity. -/
def OutputHandler.anew (o : OutputHandler) (id : HandlerId) : OutputHandler := { o with id := id }

/-- Input handlers that are the same up to identity. -/
def InputHandler.Alike (i j : InputHandler) : Prop := ∃ id, j = i.anew id

namespace InputHandler.Alike

variable {i j : InputHandler}

theorem refl (i : InputHandler) : i.Alike i := ⟨i.id, rfl⟩

theorem relevant_eq (h : i.Alike j) : j.relevant = i.relevant := by
  obtain ⟨_, rfl⟩ := h
  rfl

theorem polymorphic_eq (h : i.Alike j) : j.polymorphic = i.polymorphic := by
  obtain ⟨_, rfl⟩ := h
  rfl

end InputHandler.Alike

namespace InputHandler

variable {is js : List InputHandler}

theorem map_relevant_eq (h : List.Forall₂ Alike is js) : js.map relevant = is.map relevant := by
  induction h with
  | nil => rfl
  | cons hi _ ih => rw [List.map_cons, List.map_cons, hi.relevant_eq, ih]

theorem filter_polymorphic_alike (h : List.Forall₂ Alike is js) :
    List.Forall₂ Alike (is.filter (·.polymorphic)) (js.filter (·.polymorphic)) := by
  refine List.rel_filter (fun i j hi => ?_) h
  dsimp only
  rw [hi.polymorphic_eq]

/-- What takes the place of a handler like itself. -/
theorem rel_or {old new v : Option InputHandler} (h : Option.Rel Alike old new)
    (hold : ∀ i, old = some i → v = some i) : Option.Rel Alike v (new.or v) := by
  cases h with
  | some hi => rw [hold _ rfl]; exact .some hi
  | none =>
    rw [Option.none_or]
    cases v with
    | none => exact .none
    | some i => exact .some (.refl i)

end InputHandler

namespace Handler

/-- The handler under another identity. -/
def anew (id : HandlerId) : Handler → Handler
  | input i => input (i.anew id)
  | output o => output (o.anew id)

/-- Handlers that are the same up to identity. -/
def Alike (k k' : Handler) : Prop := ∃ id, k' = k.anew id

variable {k k' : Handler} {ks ks' : List Handler}

theorem Alike.place_eq (h : k.Alike k') : k'.place = k.place := by
  obtain ⟨_, rfl⟩ := h
  cases k <;> rfl

theorem map_place_eq (h : List.Forall₂ Alike ks ks') : ks'.map place = ks.map place := by
  induction h with
  | nil => rfl
  | cons hk _ ih => rw [List.map_cons, List.map_cons, hk.place_eq, ih]

/-- Handlers under identities of their own, from a number on. -/
def numbered (n : Nat) : List Handler → List Handler
  | [] => []
  | k :: ks => k.anew (.supplied n) :: numbered (n + 1) ks

theorem alike_numbered (n : Nat) (ks : List Handler) :
    List.Forall₂ Alike ks (numbered n ks) := by
  induction ks generalizing n with
  | nil => exact .nil
  | cons k ks ih => exact .cons ⟨_, rfl⟩ (ih (n + 1))

theorem inputs_alike (h : List.Forall₂ Alike ks ks') :
    List.Forall₂ InputHandler.Alike (inputs ks) (inputs ks') := by
  refine List.rel_filterMap (fun k _ hk => ?_) h
  obtain ⟨id, rfl⟩ := hk
  cases k with
  | input i => exact .some ⟨id, rfl⟩
  | output o => exact .none

/-- Where no output handlers come, none come anew. -/
theorem outputs_eq_nil (h : List.Forall₂ Alike ks ks') (hks : outputs ks = []) :
    outputs ks' = [] := by
  induction h with
  | nil => rfl
  | @cons k _ _ _ hk _ ih =>
    obtain ⟨id, rfl⟩ := hk
    cases k with
    | input i => exact ih hks
    | output o => cases hks

end Handler

/-- What is found in lists that go together goes together. -/
theorem rel_find? {α β : Type} {R : α → β → Prop} {p : α → Bool} {q : β → Bool} {xs : List α}
    {ys : List β} (hpq : ∀ {a b}, R a b → p a = q b) (h : List.Forall₂ R xs ys) :
    Option.Rel R (xs.find? p) (ys.find? q) := by
  induction h with
  | nil => exact .none
  | @cons a b xs ys hab _ ih =>
    rw [List.find?_cons, List.find?_cons, hpq hab]
    split
    · exact .some hab
    · exact ih

namespace Registry

/-- Registries that are the same up to the identities of their input handlers. -/
structure Alike (r r' : Registry) : Prop where
  /-- Each class has the same handler. -/
  registered : ∀ c, Option.Rel InputHandler.Alike (r.registered? c) (r'.registered? c)
  /-- The polymorphic handlers stand in the same order. -/
  polymorphic : List.Forall₂ InputHandler.Alike r.polymorphic r'.polymorphic
  /-- So do the output handlers, which are the same ones. -/
  outputs : r'.outputs = r.outputs

/-- What is not to be replaced is not replaced. -/
structure Keeps (r r' : Registry) : Prop where
  /-- An input handler stays unless it is polymorphic. -/
  registered : ∀ c i, r.registered? c = some i → i.polymorphic = false → r'.registered? c = some i
  /-- The output handlers stay, and come before any others. -/
  outputs : r.outputs <+: r'.outputs

namespace Expects

variable {r : Registry} {ks boot again : List Handler} {k k' : Handler} (he : r.Expects ks boot)

include he

theorem keeps : r.Keeps (r.registerAll boot).2 where
  registered c i hi hp := by
    rw [he.registered?_registerAll, hi]
    have hnone : (Handler.inputs (boot.filter r.admits)).find? (·.relevant = c) = none := by
      refine List.find?_eq_none.2 fun j hj hclass => ?_
      -- Such a handler would not have been accepted.
      have hadmits := (List.mem_filter.1 (Handler.mem_inputs_iff.1 hj)).2
      have hc : j.relevant = c := by simpa using hclass
      simp [admits, hc, hi, hp] at hadmits
    rw [hnone, Option.none_or]
  outputs := by
    rw [he.outputs_registerAll]
    exact List.prefix_append _ _

/-- When a handler comes again, it is accepted if it was the first time and gives way. -/
theorem admits_again (hk : k ∈ boot) (hplace : k'.place = k.place) :
    (r.registerAll boot).2.admits k' = (k.givesWay && r.admits k) := by
  rw [admits_congr hplace]
  cases k with
  | input i =>
    rw [admits, he.registered?_registerAll, he.find?_inputs_filter _ hk]
    cases ha : r.admits (.input i) with
    | true => simp [Handler.givesWay]
    | false => simpa [admits] using ha
  | output o =>
    rw [admits, he.outputs_registerAll, List.any_append]
    cases ha : r.admits (.output o) with
    | true =>
      have hmem := Handler.mem_outputs_iff.2 (List.mem_filter.2 ⟨hk, ha⟩)
      have hany : (Handler.outputs (boot.filter r.admits)).any (·.relevant = o.relevant) :=
        List.any_eq_true.2 ⟨o, hmem, by simp⟩
      simp [hany, Handler.givesWay]
    | false =>
      have hany : r.outputs.any (·.relevant = o.relevant) := by simpa [admits] using ha
      simp [hany, Handler.givesWay]

variable (hagain : List.Forall₂ Handler.Alike boot again)

include hagain

/-- The registry that the handlers came to is in order when they come again. -/
theorem expects_again (hs : Handler.Steady (ks ++ (boot ++ again))) :
    (r.registerAll boot).2.Expects (ks ++ boot.filter r.admits) again where
  coherent := he.coherent_registerAll
  steady := by
    rw [List.append_assoc]
    exact hs.mono (List.append_subset.2 ⟨by simp, by simp⟩)
  places := by
    rw [Handler.map_place_eq hagain]
    exact he.places

/-- Of the handlers that come again those are accepted that were the first time and give way. -/
theorem filter_admits_again : List.Forall₂ Handler.Alike
    ((boot.filter r.admits).filter Handler.givesWay)
    (again.filter (r.registerAll boot).2.admits) := by
  have hboth : List.Forall₂ (fun k k' => k ∈ boot ∧ k.Alike k') boot again :=
    (List.forall₂_and_left _ _).2 ⟨fun _ hk => hk, hagain⟩
  rw [List.filter_filter]
  refine (List.rel_filter (fun k k' hk => ?_) hboth).imp fun _ _ hk => hk.2
  dsimp only
  rw [he.admits_again hk.1 hk.2.place_eq]

/-- Handlers that come again leave the registry as it is, up to the identities of the polymorphic
    ones. -/
theorem alike_again (hs : Handler.Steady (ks ++ (boot ++ again))) :
    (r.registerAll boot).2.Alike ((r.registerAll boot).2.registerAll again).2 := by
  have hq := he.expects_again hagain hs
  have haccepted := he.filter_admits_again hagain
  -- The input handlers that come again are the polymorphic ones that were accepted.
  have hinputs := Handler.inputs_alike haccepted
  rw [Handler.inputs_filter_givesWay] at hinputs
  refine ⟨fun c => ?registered, ?polymorphic, ?outputs⟩
  case registered =>
    have hfind : Option.Rel InputHandler.Alike
        (((Handler.inputs (boot.filter r.admits)).filter (·.polymorphic)).find? (·.relevant = c))
        ((Handler.inputs (again.filter (r.registerAll boot).2.admits)).find? (·.relevant = c)) :=
      rel_find? (fun h => by rw [h.relevant_eq]) hinputs
    rw [hq.registered?_registerAll]
    refine InputHandler.rel_or hfind fun i hi => ?_
    -- What comes again for a class is what the class got the first time.
    have hmem := (List.mem_filter.1 (List.mem_of_find?_eq_some hi)).1
    have hclass : i.relevant = c := by simpa using List.find?_some hi
    rw [← hclass, he.registered?_of_accepted hmem]
  case polymorphic =>
    have hpolymorphic := InputHandler.filter_polymorphic_alike hinputs
    simp only [List.filter_filter, Bool.and_self] at hpolymorphic
    rw [hq.polymorphic_registerAll, InputHandler.map_relevant_eq hinputs,
      he.polymorphic_registerAll]
    generalize Handler.inputs (boot.filter r.admits) = new at hpolymorphic ⊢
    -- Those that are replaced are exactly those that came.
    have hkept : (r.polymorphic.filter (·.relevant ∉ new.map InputHandler.relevant)).filter
        (·.relevant ∉ (new.filter (·.polymorphic)).map InputHandler.relevant) =
          r.polymorphic.filter (·.relevant ∉ new.map InputHandler.relevant) := by
      refine List.filter_eq_self.2 fun j hj => decide_eq_true fun hmem => ?_
      exact of_decide_eq_true (List.mem_filter.1 hj).2 (List.filter_sublist.map _ |>.subset hmem)
    have hgone : (new.filter (·.polymorphic)).filter
        (·.relevant ∉ (new.filter (·.polymorphic)).map InputHandler.relevant) = [] := by
      refine List.filter_eq_nil_iff.2 fun j hj hnew => ?_
      exact of_decide_eq_true hnew (List.mem_map_of_mem hj)
    rw [List.filter_append, hkept, hgone, List.append_nil]
    exact List.rel_append (List.forall₂_same.2 fun j _ => .refl j) hpolymorphic
  case outputs =>
    rw [hq.outputs_registerAll, Handler.outputs_eq_nil haccepted (Handler.outputs_filter_givesWay _),
      List.append_nil]

end Expects

/-! ## The handlers of the library -/

theorem nodup_place_plainHandlers : (plainHandlers.map Handler.place).Nodup := by decide

theorem nodup_place_residentHandlers (s : Ref .server) :
    ((residentHandlers s).map Handler.place).Nodup :=
  of_decide_eq_true rfl

theorem filter_givesWay_residentHandlers (s : Ref .server) :
    (residentHandlers s).filter Handler.givesWay = [.input (entityInput s)] := rfl

variable {changes : List Change} {boot again : List Handler}

theorem steady_acceptedIn (hs : Handler.Steady (changes.flatMap Change.handlers ++ boot)) :
    Handler.Steady (empty.acceptedIn changes ++ boot) :=
  hs.mono (List.append_subset.2
    ⟨List.subset_append_of_subset_left _ (acceptedIn_subset empty changes),
      List.subset_append_right _ _⟩)

/-- Changes lead to a registry that handlers can come to. -/
theorem expects_after (hs : Handler.Steady (changes.flatMap Change.handlers ++ boot))
    (hplaces : (boot.map Handler.place).Nodup) :
    (empty.after changes).Expects (empty.acceptedIn changes) boot :=
  ⟨coherent_empty.after (hs.mono (by simp)), steady_acceptedIn hs, hplaces⟩

/-- The handlers of the residents that are accepted when they come again. -/
theorem accepted_residents_again {r : Registry} {ks residents : List Handler} {s : Ref .server}
    (he : r.Expects ks (residentHandlers s))
    (hs : Handler.Steady (ks ++ (residentHandlers s ++ residents)))
    (hagain : List.Forall₂ Handler.Alike (residentHandlers s) residents) :
    let q := (r.registerResidents s).2
    List.Forall₂ Handler.Alike
      (if (q.registered? .entity).all (·.polymorphic) then [.input (entityInput s)] else [])
      (q.acceptedIn (residents.map .register)) := by
  intro q
  have hmem : Handler.input (entityInput s) ∈ residentHandlers s :=
    (List.mem_filter.1 ((filter_givesWay_residentHandlers s).symm ▸ List.mem_singleton_self _)).1
  have hadmits : q.admits (.input (entityInput s)) = r.admits (.input (entityInput s)) :=
    he.admits_again hmem rfl
  change (q.registered? .entity).all (·.polymorphic) = _ at hadmits
  have hentities : (if (q.registered? .entity).all (·.polymorphic) then
      [Handler.input (entityInput s)] else []) =
        ((residentHandlers s).filter r.admits).filter Handler.givesWay := by
    rw [List.filter_comm, filter_givesWay_residentHandlers, hadmits, List.filter_cons,
      List.filter_nil]
  have hanew := (he.expects_again hagain hs).acceptedIn_register
  rw [hentities, show q.acceptedIn (residents.map .register) = _ from hanew]
  exact he.filter_admits_again hagain

/-- The handlers of the library come again, the same ones or others like them. Whatever changes made
    a registry, those of plain values can be registered in it twice, and those of the residents of a
    server as well: the second time they leave the registry as they left it the first time, except
    that the polymorphic ones are the new ones. Those of the residents are not accepted again but for
    that of entities, and that one only where entities are not read by a handler that stays. No
    handler that was there is replaced but polymorphic ones. -/
theorem bootstrap_again (changes : List Change) (s : Ref .server) {plain residents : List Handler}
    (hplain : List.Forall₂ Handler.Alike plainHandlers plain)
    (hresidents : List.Forall₂ Handler.Alike (residentHandlers s) residents)
    (hp : Handler.Steady (changes.flatMap Change.handlers ++ (plainHandlers ++ plain)))
    (hq : Handler.Steady (changes.flatMap Change.handlers ++ (residentHandlers s ++ residents))) :
    let r := empty.after changes
    let p := r.withPlain
    let q := (r.registerResidents s).2
    let entities := if (q.registered? .entity).all (·.polymorphic) then
      [Handler.input (entityInput s)] else []
    p.Alike (p.registerAll plain).2 ∧ q.Alike (q.registerAll residents).2 ∧
    List.Forall₂ Handler.Alike entities (q.acceptedIn (residents.map .register)) ∧
    (q.registerAll residents).1 = entities.length ∧
    r.Keeps p ∧ p.Keeps (p.registerAll plain).2 ∧
    r.Keeps q ∧ q.Keeps (q.registerAll residents).2 := by
  intro r p q entities
  have hfirst : r.Expects (empty.acceptedIn changes) plainHandlers :=
    expects_after (hp.mono (by simp)) nodup_place_plainHandlers
  have hfirst' : r.Expects (empty.acceptedIn changes) (residentHandlers s) :=
    expects_after (hq.mono (by simp)) (nodup_place_residentHandlers s)
  have hp := steady_acceptedIn hp
  have hq := steady_acceptedIn hq
  have haccepted := accepted_residents_again hfirst' hq hresidents
  refine ⟨hfirst.alike_again hplain hp, hfirst'.alike_again hresidents hq, haccepted, ?_,
    hfirst.keeps, (hfirst.expects_again hplain hp).keeps, hfirst'.keeps,
    (hfirst'.expects_again hresidents hq).keeps⟩
  rw [fst_registerAll, haccepted.length_eq]

/-- A host has the handler of collections before one of its own for enumerations, and one of its own
    for strings. The handlers of enumerations and collections are replaced each time and come to
    stand in the order of the library, and strings are still read by the handler of the host. -/
theorem bootstrap_again_hosted :
    let changes : List Change :=
      [.register (.input collectionInput),
        .register (.input (enumerationInput.anew (.supplied 0))),
        .register (.input ((scalarInput .string).anew (.supplied 1)))]
    let r := empty.after changes
    let p := r.withPlain
    let again := (p.registerAll (Handler.numbered 10 plainHandlers)).2
    let q := (r.registerResidents ⟨0⟩).2
    p.Alike again ∧
    again.polymorphic.map InputHandler.id = [.supplied 37, .supplied 39] ∧
    (again.registered? .string).map InputHandler.id = some (.supplied 1) ∧
    (q.registerAll (Handler.numbered 10 (residentHandlers ⟨0⟩))).1 = 1 := by
  intro changes r p again q
  obtain ⟨hp, -, -, hcount, hkeeps, hkeeps', -⟩ := bootstrap_again changes ⟨0⟩
    (Handler.alike_numbered 10 plainHandlers) (Handler.alike_numbered 10 (residentHandlers ⟨0⟩))
    (by decide +kernel) (by decide +kernel)
  have hstring : r.registered? .string = some ((scalarInput .string).anew (.supplied 1)) := rfl
  have hstays := hkeeps'.registered _ _ (hkeeps.registered _ _ hstring rfl) rfl
  exact ⟨hp, by decide, congrArg (Option.map InputHandler.id) hstays, hcount.trans rfl⟩

end Registry

end Chainwalk
