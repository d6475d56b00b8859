import Chainwalk.Proofs.Conversion.RootCause
import Chainwalk.Proofs.Registry.Shipped

/-!
# Plans of handlers

All handlers that come with the library, and all that a host can define by data, work by plans. Most
of them have no part of their literals read, and refuse literals with faults of their own; those for
collections and stacks pass the failures of parts on as they are. A host may also have a literal
read in the registry of plain values, and what fails there has one cause already.

* `Collapses`: what fails with the failure of a conversion once at most;
* `Delegation.askAll`: parts in order, each of which must be read;
* `InputHandler.Known.exists_follows`: handlers of the library and of hosts have plans;
* `Registry.exists_follows_after`: a registry of such handlers works by plans, whatever was
  registered and removed;
* `Registry.cause_after`: so its failures have one cause each.
-/

namespace Chainwalk

/-- What fails, if it does, with the failure of a conversion once at most. -/
def Collapses {α : Type} (e : Except Fault α) : Prop := ∀ fault, e = .error fault → fault.Collapsed

namespace Collapses

variable {α β : Type} {e : Except Fault α}

theorem ok (a : α) : Collapses (.ok a) := fun _ hfault => by cases hfault

theorem error {fault : Fault} (hf : fault.Collapsed) :
    Collapses (.error fault : Except Fault α) := by
  rintro _ ⟨⟩
  exact hf

theorem bind {k : α → Except Fault β} (he : Collapses e) (hk : ∀ a, Collapses (k a)) :
    Collapses (e >>= k) := by
  rcases e with fault | a
  · exact error (he fault rfl)
  · exact hk a

theorem mapM {f : α → Except Fault β} (hf : ∀ a, Collapses (f a)) (as : List α) :
    Collapses (as.mapM f) := by
  induction as with
  | nil => exact ok []
  | cons a as ih =>
    rw [List.mapM_cons]
    exact (hf a).bind fun b => ih.bind fun bs => ok (b :: bs)

end Collapses

/-- A literal that stands for nothing of a class is no failed conversion. -/
theorem collapsed_unreadable (h : Hierarchy) (input : String) (c : Class) (reason : String) :
    (unreadable h input c reason).Collapsed :=
  Fault.collapsed_of_conversionCause? rfl

theorem collapses_readAs (h : Hierarchy) (c : Class) (k : ScalarKind) (literal : String) :
    Collapses (k.readAs h c literal) := by
  rw [ScalarKind.readAs]
  rcases k.read literal with reason | v
  · exact .error (collapsed_unreadable h literal c reason)
  · exact .ok v

/-! ## Places -/

section

variable {α : Type} (h : Hierarchy) (realm : Realm) (s : Ref .server) (target : Class)
  (literal : String)

theorem collapses_splitPosition (here : Option Location) :
    Collapses (splitPosition h realm s here target literal) := by
  have hunreadable (reason : String) : (unreadable h literal target reason).Collapsed :=
    collapsed_unreadable h literal target reason
  unfold splitPosition
  split
  · dsimp only
    split
    · exact .ok _
    · exact .error (hunreadable _)
  · split
    · exact .ok _
    · exact .error (hunreadable _)
  · exact .error (hunreadable _)

theorem collapses_coordinate (number : String → Option α) (zero : α) (name : String) :
    Collapses (Coordinate.read h number zero name target literal) := by
  unfold Coordinate.read
  dsimp only
  split
  · split
    · exact .ok _
    · split
      · exact .ok _
      · exact .error (collapsed_unreadable _ _ _ _)
  · split
    · exact .ok _
    · exact .error (collapsed_unreadable _ _ _ _)

theorem collapses_resolvePosition (add : α → α → α) (zero : α) (base : Option (α × α × α))
    (x y z : Coordinate α) :
    Collapses (resolvePosition add zero base (needsSender h target literal) x y z) := by
  unfold resolvePosition
  split
  · exact .ok _
  · split
    · exact .error (collapsed_unreadable _ _ _ _)
    · exact .ok _

theorem collapses_readLocation (sender : Option Sender) :
    Collapses (readLocation h realm s sender target literal) :=
  (collapses_splitPosition h realm s target literal _).bind fun _ =>
    (collapses_coordinate h target _ _ _ _).bind fun _ =>
    (collapses_coordinate h target _ _ _ _).bind fun _ =>
    (collapses_coordinate h target _ _ _ _).bind fun _ =>
    (collapses_resolvePosition h target literal _ _ _ _ _ _).bind fun _ => .ok _

theorem collapses_readBlock (sender : Option Sender) :
    Collapses (readBlock h realm s sender target literal) :=
  (collapses_splitPosition h realm s target literal _).bind fun _ =>
    (collapses_coordinate h target _ _ _ _).bind fun _ =>
    (collapses_coordinate h target _ _ _ _).bind fun _ =>
    (collapses_coordinate h target _ _ _ _).bind fun _ =>
    (collapses_resolvePosition h target literal _ _ _ _ _ _).bind fun _ => .ok _

theorem collapses_splitStack : Collapses (splitStack h target literal) := by
  rw [splitStack]
  split
  · exact .ok _
  · split
    · split
      · exact .ok _
      · exact .error (collapsed_unreadable _ _ _ _)
    · exact .error (collapsed_unreadable _ _ _ _)

end

/-! ## Calls and conversions -/

namespace Act

/-- A call that fails, if it does, with the failure of a conversion once at most. -/
def Collapses {α : Type} (a : Act α) : Prop := ∀ s, Chainwalk.Collapses (a s).1

namespace Collapses

variable {α β : Type}

theorem pure (a : α) : Collapses (Pure.pure a : Act α) := fun _ => .ok a

theorem bind {a : Act α} {k : α → Act β} (ha : a.Collapses) (hk : ∀ x, (k x).Collapses) :
    Collapses (a >>= k) := by
  intro s
  have hs := ha s
  rw [bind_apply]
  generalize a s = first at hs
  obtain ⟨fault | x, t⟩ := first
  · exact .error (hs fault rfl)
  · exact hk x t

theorem throw {fault : Fault} (hf : fault.Collapsed) :
    Collapses (MonadExcept.throw fault : Act α) :=
  fun _ => .error hf

theorem lift {e : Except Fault α} (he : Chainwalk.Collapses e) : (Act.ofExcept e).Collapses :=
  fun _ => he

theorem ask (f : Realm → α) : (Act.ask f).Collapses := fun s => .ok (f s.realm)

theorem orElse (v : Option α) {fault : Fault} (hf : fault.Collapsed) :
    (Act.orElse v fault).Collapses := by
  rcases v with _ | a
  · exact throw hf
  · exact pure a

theorem new (d : Datum) : (Act.new d).Collapses := fun _ => .ok _

/-- What the realm refuses, it refuses in words of its own. -/
theorem realm (m : RealmM α) : (Act.realm m).Collapses := by
  intro s
  rw [Act.realm]
  rcases m s.realm with ⟨refusal | a, t⟩
  · exact .error (Fault.collapsed_of_conversionCause? rfl)
  · exact .ok a

end Collapses

end Act

/-! ## Plans without parts -/

namespace Delegation

/-- The end of the work of a handler that knows the result. -/
def ofResult : Except Fault Value × Store → Delegation
  | (.ok v, s) => gives v s
  | (.error fault, s) => refuses fault s

variable {nested : Class → String → Act Value}

@[simp] theorem result_ending_ofResult (e : Except Fault Value × Store) :
    ((ofResult e).ending nested).result = e := by
  rcases e with ⟨fault | v, s⟩ <;> rfl

theorem wellMade_ofResult {e : Except Fault Value × Store} (he : Collapses e.1) :
    (ofResult e).WellMade := by
  rcases e with ⟨fault | v, s⟩
  · exact he fault rfl
  · trivial

/-! ## Plans with parts -/

/-- Has a part read and goes on with it. A failure is passed on as it is. -/
def ask (c : Class) (part : String) (s : Store) (next : Value → Store → Delegation) : Delegation :=
  asks c part s next (fun _ => some []) refuses

/-- Has parts read in order and goes on with all of them. A failure is passed on as it is. -/
def askAll (c : Class) : List String → Store → (List Value → Store → Delegation) → Delegation
  | [], s, next => next [] s
  | part :: parts, s, next => ask c part s fun v t => askAll c parts t fun vs => next (v :: vs)

theorem wellMade_ask {next : Value → Store → Delegation} (hnext : ∀ v t, (next v t).WellMade)
    (c : Class) (part : String) (s : Store) : (ask c part s next).WellMade :=
  ⟨hnext, fun _ _ hfault => hfault⟩

theorem wellMade_askAll {next : List Value → Store → Delegation}
    (hnext : ∀ vs t, (next vs t).WellMade) (c : Class) (parts : List String) (s : Store) :
    (askAll c parts s next).WellMade := by
  induction parts generalizing s next with
  | nil => exact hnext [] s
  | cons part parts ih =>
    exact wellMade_ask (fun v t => ih (fun vs => hnext (v :: vs)) t) c part s

/-- What is done after a part has been read, as an act. -/
def goOn (nested : Class → String → Act Value) {α : Type} (next : α → Store → Delegation) (a : α) :
    Act Value :=
  fun s => ((next a s).ending nested).result

/-- What is done is what the handler knows already. -/
theorem goOn_ofResult {α : Type} (f : α → Act Value) :
    goOn nested (fun a t => ofResult (f a t)) = f := by
  funext a s
  exact result_ending_ofResult (f a s)

theorem result_ending_ask (c : Class) (part : String) (s : Store)
    (next : Value → Store → Delegation) :
    ((ask c part s next).ending nested).result = (nested c part >>= goOn nested next) s := by
  rw [bind_apply, ask, ending]
  rcases nested c part s with ⟨_ | _, t⟩ <;> rfl

theorem result_ending_askAll (c : Class) (parts : List String) (s : Store)
    (next : List Value → Store → Delegation) :
    ((askAll c parts s next).ending nested).result =
      (parts.mapM (nested c) >>= goOn nested next) s := by
  induction parts generalizing s next with
  | nil => rfl
  | cons part parts ih =>
    rw [askAll, result_ending_ask, List.mapM_cons, bind_apply, bind_assoc, bind_apply]
    rcases nested c part s with ⟨_ | v, t⟩
    · rfl
    · dsimp only
      rw [goOn, ih, bind_assoc]
      rfl

end Delegation

namespace Plan

/-- The plan of the handler of collections: each element is read as a string. -/
def collection : Plan := fun h _ literal target s =>
  if !h.isA .arrayList target then
    .refuses (unreadable h literal target "only list collections can be built") s
  else
    .askAll .string (Text.elementTexts literal) s fun vs t =>
      .ofResult (Act.newList vs t)

/-- The stack of a material. -/
def stackOf (h : Hierarchy) (literal : String) (target : Class) (count : UInt8) (v : Value) :
    Act Value := do
  let o ← Act.orElse v (unreadable h literal target "material must not be null")
  let m ← Act.orElse (o.shows? Material h .material) (unreadable h literal target "not a material")
  let r ← Act.realm (Realm.newStack (.make m count))
  return some (.stack r)

/-- The plan of the handler of stacks: what stands before the count is read as a material. -/
def itemStack : Plan := fun h _ literal target s =>
  match splitStack h target literal with
  | .error fault => .refuses fault s
  | .ok (name, count) =>
    .ask .material (Text.trim name) s fun v t => .ofResult (stackOf h literal target count v t)

theorem collapses_stackOf (h : Hierarchy) (literal : String) (target : Class) (count : UInt8)
    (v : Value) : (stackOf h literal target count v).Collapses :=
  (Act.Collapses.orElse v (collapsed_unreadable _ _ _ _)).bind fun _ =>
    (Act.Collapses.orElse _ (collapsed_unreadable _ _ _ _)).bind fun _ =>
    (Act.Collapses.realm _).bind fun _ => .pure _

end Plan

/-! ## Handlers of the library -/

namespace InputHandler

variable {i : InputHandler}

/-- A handler that has no part of a literal read works by a plan without parts. -/
theorem exists_follows_of_asksFor_nil (hasks : i.AsksFor [])
    (hi : ∀ h sender nested literal c, (i.convert h sender nested literal c).Collapses) :
    ∃ plan, i.Follows plan := by
  let unread (_ : Class) (_ : String) : Act Value := pure none
  refine ⟨fun h sender literal c s => .ofResult (i.convert h sender unread literal c s),
    fun h sender literal c s => Delegation.wellMade_ofResult (hi h sender unread literal c s),
    fun h sender nested literal c s => ?_⟩
  rw [Delegation.result_ending_ofResult,
    hasks h sender literal c nested unread fun _ hd => (List.not_mem_nil hd).elim]

theorem exists_follows_scalarInput (k : ScalarKind) : ∃ plan, (scalarInput k).Follows plan :=
  exists_follows_of_asksFor_nil (fun _ _ _ _ _ _ _ => rfl) fun h _ _ literal _ =>
    .bind (.lift (collapses_readAs h _ k literal)) fun _ => .new _

theorem exists_follows_arrayInput (k : ScalarKind) : ∃ plan, (arrayInput k).Follows plan :=
  exists_follows_of_asksFor_nil (fun _ _ _ _ _ _ _ => rfl) fun h _ _ _ _ =>
    .bind (.lift (.mapM (collapses_readAs h _ k) _)) fun _ => .new _

theorem exists_follows_enumerationInput : ∃ plan, enumerationInput.Follows plan :=
  exists_follows_of_asksFor_nil (fun _ _ _ _ _ _ _ => rfl) fun _ _ _ _ _ =>
    (Act.Collapses.orElse _ (collapsed_unreadable _ _ _ _)).bind fun _ => .new _

theorem exists_follows_worldInput (s : Ref .server) : ∃ plan, (worldInput s).Follows plan :=
  exists_follows_of_asksFor_nil (fun _ _ _ _ _ _ _ => rfl) fun _ _ _ _ _ =>
    (Act.Collapses.ask _).bind fun _ =>
      (Act.Collapses.orElse _ (collapsed_unreadable _ _ _ _)).bind fun _ => .pure _

theorem exists_follows_playerInput (s : Ref .server) : ∃ plan, (playerInput s).Follows plan :=
  exists_follows_of_asksFor_nil (fun _ _ _ _ _ _ _ => rfl) fun _ _ _ _ _ =>
    (Act.Collapses.ask _).bind fun _ =>
      (Act.Collapses.orElse _ (collapsed_unreadable _ _ _ _)).bind fun _ => .pure _

theorem exists_follows_entityInput (s : Ref .server) : ∃ plan, (entityInput s).Follows plan := by
  refine exists_follows_of_asksFor_nil (fun _ _ _ _ _ _ _ => rfl) fun _ _ _ _ _ =>
    (Act.Collapses.ask _).bind fun _ =>
      (Act.Collapses.orElse _ (collapsed_unreadable _ _ _ _)).bind fun _ => ?_
  dsimp only
  split
  · exact (Act.Collapses.throw (collapsed_unreadable _ _ _ _)).bind fun _ => .pure _
  · exact .pure _

theorem exists_follows_locationInput (s : Ref .server) : ∃ plan, (locationInput s).Follows plan :=
  exists_follows_of_asksFor_nil (fun _ _ _ _ _ _ _ => rfl) fun _ _ _ _ _ =>
    (Act.Collapses.ask _).bind fun _ =>
      .bind (.lift (collapses_readLocation _ _ _ _ _ _)) fun _ => .new _

theorem exists_follows_blockInput (s : Ref .server) : ∃ plan, (blockInput s).Follows plan :=
  exists_follows_of_asksFor_nil (fun _ _ _ _ _ _ _ => rfl) fun _ _ _ _ _ =>
    (Act.Collapses.ask _).bind fun _ =>
      .bind (.lift (collapses_readBlock _ _ _ _ _ _)) fun _ => .new _

theorem follows_collectionInput : collectionInput.Follows .collection where
  wellMade h sender literal target s := by
    rw [Plan.collection]
    split
    · exact collapsed_unreadable _ _ _ _
    · refine Delegation.wellMade_askAll (fun vs t => Delegation.wellMade_ofResult ?_) _ _ s
      exact .ok _
  convert_eq h sender nested literal target s := by
    simp only [Plan.collection, collectionInput]
    split
    · rfl
    · rw [Delegation.result_ending_askAll, Delegation.goOn_ofResult]

theorem follows_itemStackInput : itemStackInput.Follows .itemStack where
  wellMade h sender literal target s := by
    rw [Plan.itemStack]
    rcases hsplit : splitStack h target literal with fault | ⟨name, count⟩
    · exact collapses_splitStack h target literal fault hsplit
    · refine Delegation.wellMade_ask (fun v t => Delegation.wellMade_ofResult ?_) _ _ s
      exact Plan.collapses_stackOf h literal target count v t
  convert_eq h sender nested literal target s := by
    simp only [Plan.itemStack, itemStackInput]
    rcases splitStack h target literal with fault | ⟨name, count⟩
    · rfl
    · dsimp only
      rw [Delegation.result_ending_ask, Delegation.goOn_ofResult]
      rfl

/-- The handlers of the library work by plans. -/
theorem exists_follows_of_mem_shippedHandlers {server? : Option (Ref .server)}
    (hi : .input i ∈ Registry.shippedHandlers server?) : ∃ plan, i.Follows plan :=
  Registry.cases_of_mem_shippedHandlers exists_follows_scalarInput exists_follows_arrayInput
    exists_follows_enumerationInput ⟨_, follows_collectionInput⟩ exists_follows_worldInput
    exists_follows_playerInput exists_follows_entityInput exists_follows_locationInput
    exists_follows_blockInput ⟨_, follows_itemStackInput⟩ hi

end InputHandler

namespace Registry

variable {r : Registry} {h : Hierarchy} {sender : Option Sender}

theorem exists_follows (hr : ∀ i ∈ r.inputs, ∃ plan, i.Follows plan) : ∃ plan, r.Follows plan := by
  have : Nonempty Plan := ⟨fun _ _ _ _ s => .gives none s⟩
  choose! plan hplan using hr
  exact ⟨plan, hplan⟩

theorem exists_follows_shipped (server? : Option (Ref .server)) :
    ∃ plan, (shipped server?).Follows plan := by
  obtain ⟨ks, hks, hr⟩ := coherent_shipped server?
  refine exists_follows fun i hi => InputHandler.exists_follows_of_mem_shippedHandlers (hks ?_)
  rcases List.mem_append.1 hi with hi | hi
  · obtain ⟨entry, hentry, rfl⟩ := List.mem_map.1 hi
    exact hr.input_mem entry hentry
  · exact hr.input_mem_of_mem_polymorphic hi

/-- Failures of a registry of handlers with plans are not failures of conversions twice over. -/
theorem rooted_of_attempt (hr : ∃ plan, r.Follows plan) {c : Class} {literal : String}
    {s t : Store} {e : ConversionFault} (he : r.attempt h sender c literal s = (.error e, t)) :
    e.Rooted := by
  obtain ⟨plan, hplan⟩ := hr
  have hread : r.read h sender ⟨r.room, c, literal, s⟩ = .error e :=
    Attempt.answer_eq_error_iff.2 ⟨t, he⟩
  exact rooted_of_read hplan hread

end Registry

/-! ## Handlers of hosts -/

namespace Act.Collapses

/-- What is read in a registry of handlers with plans. -/
theorem toAct {r : Registry} (hr : ∃ plan, r.Follows plan) (h : Hierarchy)
    (sender : Option Sender) (c : Class) (literal : String) :
    Collapses (r.attempt h sender c literal).toAct := by
  intro s
  rw [Attempt.toAct, adapt_apply]
  rcases hread : r.attempt h sender c literal s with ⟨e | v, t⟩
  · exact .error (Registry.rooted_of_attempt hr hread).collapsed_toFault
  · exact .ok v

end Act.Collapses

namespace Recipe

variable (h : Hierarchy) (server? : Option (Ref .server))

theorem collapses_stray (kind : Stray) : kind.prepare.Collapses := by
  refine (Act.Collapses.realm _).bind fun r => (Act.Collapses.realm _).bind fun _ => ?_
  cases kind with
  | location | block => exact fun _ => .ok _
  | player | mob => exact (Act.Collapses.realm _).bind fun _ => .pure _

mutual

theorem collapses_prepare : ∀ recipe : Recipe, (recipe.prepare h server?).Collapses
  | null => .pure none
  | literal c text => by
    rw [prepare]
    exact .toAct (Registry.exists_follows_shipped none) h none c text
  | list items => by
    rw [prepare]
    exact (collapses_prepareAll items).bind fun _ _ => .ok _
  | classRef _ | hosted _ _ _ | saved _ | server | world _ | player _ => by
    rw [prepare]
    exact fun _ => .ok _
  | stray kind => by
    rw [prepare]
    exact collapses_stray kind

theorem collapses_prepareAll : ∀ recipes : List Recipe, (prepareAll h server? recipes).Collapses
  | [] => by
    rw [prepareAll]
    exact .pure []
  | recipe :: recipes => by
    rw [prepareAll]
    exact (collapses_prepare recipe).bind fun _ =>
      (collapses_prepareAll recipes).bind fun _ => .pure _

end

end Recipe

/-- The handlers that a host defines by data work by plans. -/
theorem exists_follows_scriptedInput (n : ℕ) (server? : Option (Ref .server)) (c : Class)
    (polymorphic : Bool) (action : ScriptedInput) :
    ∃ plan, (scriptedInput n server? c polymorphic action).Follows plan := by
  cases action with
  | delegate other => exact ⟨_, Plan.follows_delegate n server? c other polymorphic⟩
  | delegateInContext other context =>
    exact ⟨_, Plan.follows_delegateInContext n server? c other polymorphic context⟩
  -- No other handler has anything read.
  | labelled | string =>
    exact InputHandler.exists_follows_of_asksFor_nil (fun _ _ _ _ _ _ _ => rfl) fun _ _ _ _ _ =>
      .new _
  | null =>
    exact InputHandler.exists_follows_of_asksFor_nil (fun _ _ _ _ _ _ _ => rfl) fun _ _ _ _ _ =>
      .pure none
  | value recipe =>
    exact InputHandler.exists_follows_of_asksFor_nil (fun _ _ _ _ _ _ _ => rfl) fun h _ _ _ _ =>
      Recipe.collapses_prepare h server? recipe
  | fail | failInContext | reject =>
    exact InputHandler.exists_follows_of_asksFor_nil (fun _ _ _ _ _ _ _ => rfl) fun _ _ _ _ _ =>
      .throw (Fault.collapsed_of_conversionCause? rfl)
  | sender =>
    exact InputHandler.exists_follows_of_asksFor_nil (fun _ _ _ _ _ _ _ => rfl) fun _ _ _ _ _ =>
      (Act.Collapses.ask _).bind fun _ => .new _

/-- A handler of the library, or one that a host defines by data. -/
inductive InputHandler.Known : InputHandler → Prop
  | shipped {server? : Option (Ref .server)} {i : InputHandler} :
    .input i ∈ Registry.shippedHandlers server? → i.Known
  | scripted (n : ℕ) (server? : Option (Ref .server)) (c : Class) (polymorphic : Bool)
    (action : ScriptedInput) : (scriptedInput n server? c polymorphic action).Known

theorem InputHandler.Known.exists_follows {i : InputHandler} (hi : i.Known) :
    ∃ plan, i.Follows plan := by
  cases hi with
  | shipped hmem => exact exists_follows_of_mem_shippedHandlers hmem
  | scripted n server? c polymorphic action =>
    exact exists_follows_scriptedInput n server? c polymorphic action

namespace Registry

theorem mem_inputs_of_vacate {r : Registry} {c : Class} {j : InputHandler}
    (hj : j ∈ (r.vacate c).inputs) : j ∈ r.inputs :=
  (List.mem_append.1 hj).elim
    (fun hj => List.mem_append_left _ ((List.filter_sublist.map _).subset hj))
    (List.mem_append_right _)

/-- No change brings a handler that it does not name. -/
theorem mem_inputs_apply {r : Registry} {change : Change} {i : InputHandler}
    (hi : i ∈ (r.apply change).2.inputs) : .input i ∈ change.handlers ∨ i ∈ r.inputs := by
  cases change with
  | register k =>
    have hmem : .input i ∈ (r.register k).2.handlers :=
      List.mem_append_left _ (List.mem_map_of_mem hi)
    refine (mem_handlers_register hmem).imp List.mem_singleton.2 fun hmem => ?_
    simpa [handlers] using hmem
  | remove k =>
    right
    cases k with
    | input j =>
      simp only [apply, remove] at hi
      split at hi
      · exact mem_inputs_of_vacate (mem_inputs_of_forget hi)
      · exact hi
    | output o => exact hi
  | removeFor c =>
    right
    simp only [apply, removeFor] at hi
    split at hi
    · exact mem_inputs_of_vacate (mem_inputs_of_forget hi)
    · exact hi

theorem mem_inputs_after {r : Registry} {changes : List Change} {i : InputHandler}
    (hi : i ∈ (r.after changes).inputs) :
    .input i ∈ changes.flatMap Change.handlers ∨ i ∈ r.inputs := by
  induction changes generalizing r with
  | nil => exact .inr hi
  | cons change changes ih =>
    rw [List.flatMap_cons, List.mem_append, or_assoc]
    rcases ih hi with hi | hi
    · exact .inr (.inl hi)
    · exact (mem_inputs_apply hi).imp_right .inr

/-- Whatever is registered and removed, as long as it is known, the registry works by plans. -/
theorem exists_follows_after {changes : List Change}
    (hknown : ∀ i, .input i ∈ changes.flatMap Change.handlers → i.Known) :
    ∃ plan, (empty.after changes).Follows plan :=
  exists_follows fun i hi =>
    (hknown i ((mem_inputs_after hi).resolve_right List.not_mem_nil)).exists_follows

/-- So a failure in such a registry has one cause, which is not itself the failure of a conversion:
    what the literal was refused with in the conversion that the failure comes from. -/
theorem cause_after {changes : List Change}
    (hknown : ∀ i, .input i ∈ changes.flatMap Change.handlers → i.Known) {h : Hierarchy}
    {sender : Option Sender} {q : Request} {e : ConversionFault}
    (he : (empty.after changes).read h sender q = .error e) :
    e.cause.conversionCause? = none ∧
      ∃ plan b fault, (empty.after changes).Follows plan ∧
        (empty.after changes).Innermost h sender plan q b fault ∧
        (empty.after changes).read h sender b = .error e ∧ e = .wrap fault := by
  obtain ⟨plan, hplan⟩ := exists_follows_after hknown
  obtain ⟨b, fault, hb⟩ := exists_innermost hplan he
  exact ⟨rooted_of_read hplan he, plan, b, fault, hplan, hb, eq_wrap_of_innermost hplan hb he⟩

end Registry

end Chainwalk
