import Chainwalk.Extension.Scripted
import Chainwalk.Proofs.Registry.Handlers

/-!
# Root causes

A handler may have parts of its literal read by the registry, and when one of these cannot be read,
the handler may pass the failure on, with words put in front of it, or go on without. So a failure
comes from the conversion in which a handler first failed by itself, or could not be asked at all,
through all those that only passed it on, and it is taken out of its wrapping and put into another
one in each of them. Nothing of this shows: the failure that arrives is the one that set out.

* `Delegation`: a handler at work on one literal, `Delegation.ending`: how it comes to its end;
* `Registry.Follows`: handlers that work by plans;
* `Registry.Innermost`: the conversion that a failure comes from;
* `Registry.root_cause`: failures arrive as they set out.
-/

namespace Chainwalk

/-! ## Faults in contexts -/

namespace Fault

/-- A fault in contexts, the outermost of them first. -/
def within (contexts : List String) (fault : Fault) : Fault := contexts.foldr .context fault

@[simp] theorem conversionCause?_within (contexts : List String) (fault : Fault) :
    (fault.within contexts).conversionCause? = fault.conversionCause? := by
  induction contexts with
  | nil => rfl
  | cons text contexts ih => exact ih

/-- Whether a fault, if it is the failure of a conversion, is one once only. Whatever was wrapped
    is. -/
def Collapsed (fault : Fault) : Prop :=
  ∀ cause ∈ fault.conversionCause?, cause.conversionCause? = none

theorem collapsed_of_conversionCause? {fault : Fault} (hf : fault.conversionCause? = none) :
    fault.Collapsed := by
  intro cause hcause
  rw [hf] at hcause
  cases hcause

end Fault

namespace ConversionFault

/-- A failure whose cause is not the failure of a conversion. -/
def Rooted (e : ConversionFault) : Prop := e.cause.conversionCause? = none

theorem Rooted.collapsed_toFault {e : ConversionFault} (he : e.Rooted) : e.toFault.Collapsed := by
  rintro _ ⟨⟩
  exact he

theorem rooted_wrap {fault : Fault} (hf : fault.Collapsed) : (wrap fault).Rooted := by
  rw [Rooted, wrap]
  rcases hcause : fault.conversionCause? with _ | cause
  · exact hcause
  · exact hf cause hcause

theorem cause_wrap {fault : Fault} (hf : fault.conversionCause? = none) :
    (wrap fault).cause = fault := by
  rw [wrap, hf, Option.getD_none]

/-- A failure that was put in contexts is the same when it is wrapped again. -/
@[simp] theorem wrap_within_toFault (contexts : List String) (e : ConversionFault) :
    wrap (e.toFault.within contexts) = e := by
  rw [wrap, Fault.conversionCause?_within]
  rfl

/-- However often it is put in contexts and wrapped again. -/
theorem iterate_wrap_within (contexts : List String) (n : ℕ) (e : ConversionFault) :
    (fun e => wrap (e.toFault.within contexts))^[n] e = e :=
  Function.iterate_fixed (wrap_within_toFault contexts e) n

end ConversionFault

/-! ## Handlers at work -/

/-- What a handler does about one literal. It comes to an end, or has a part read as an object of
    some class, with the store that it has got to by then; and if the part cannot be read, it
    passes the failure on in some contexts, or goes on in another way. -/
inductive Delegation
  | gives (v : Value) (s : Store)
  | refuses (fault : Fault) (s : Store)
  | asks (c : Class) (part : String) (s : Store) (next : Value → Store → Delegation)
    (passes : Fault → Option (List String)) (instead : Fault → Store → Delegation)

namespace Delegation

/-- How the work of a handler ends. -/
inductive Ending
  | given (v : Value) (s : Store)
  /-- The handler itself refuses the literal. -/
  | refused (fault : Fault) (s : Store)
  /-- A part could not be read, and the handler passes this on in some contexts. -/
  | passedOn (c : Class) (part : String) (s : Store) (fault : Fault) (contexts : List String)
    (t : Store)

/-- What comes of the literal in the end, and what is left. -/
def Ending.result : Ending → Except Fault Value × Store
  | given v s => (.ok v, s)
  | refused fault s => (.error fault, s)
  | passedOn _ _ _ fault contexts t => (.error (fault.within contexts), t)

/-- How the work ends, given the readings of all parts. -/
def ending (nested : Class → String → Act Value) : Delegation → Ending
  | gives v s => .given v s
  | refuses fault s => .refused fault s
  | asks c part s next passes instead =>
    match nested c part s with
    | (.ok v, t) => (next v t).ending nested
    | (.error fault, t) =>
      match passes fault with
      | some contexts => .passedOn c part s fault contexts t
      | none => (instead fault t).ending nested

/-- Whether the faults with which a handler refuses literals are failures of conversions once at
    most, as long as those are that it is told of. -/
def WellMade : Delegation → Prop
  | gives _ _ => True
  | refuses fault _ => fault.Collapsed
  | asks _ _ _ next _ instead =>
    (∀ v t, (next v t).WellMade) ∧ ∀ fault t, fault.Collapsed → (instead fault t).WellMade

variable {nested : Class → String → Act Value} {d : Delegation}

/-- What is passed on is the failure of a part. -/
theorem nested_of_passedOn {c : Class} {part : String} {s t : Store} {fault : Fault}
    {contexts : List String} (h : d.ending nested = .passedOn c part s fault contexts t) :
    nested c part s = (.error fault, t) := by
  induction d with
  | gives | refuses => cases h
  | asks c part s next passes instead hnext hinstead =>
    rw [ending] at h
    split at h
    · exact hnext _ _ h
    · rename_i hnested
      split at h
      · cases h
        exact hnested
      · exact hinstead _ _ h

theorem WellMade.collapsed_of_refused (hd : d.WellMade)
    (hnested : ∀ c part s fault t, nested c part s = (.error fault, t) → fault.Collapsed)
    {fault : Fault} {t : Store} (h : d.ending nested = .refused fault t) : fault.Collapsed := by
  induction d with
  | gives => cases h
  | refuses => cases h; exact hd
  | asks c part s next passes instead hnext hinstead =>
    rw [ending] at h
    split at h
    · exact hnext _ _ (hd.1 _ _) h
    · rename_i hfault
      split at h
      · cases h
      · -- The handler goes on by itself, with the failure of the part in hand.
        exact hinstead _ _ (hd.2 _ _ (hnested _ _ _ _ _ hfault)) h

end Delegation

/-- What a handler does about each literal, for whom and as whichever class it is read. -/
abbrev Plan := Hierarchy → Option Sender → String → Class → Store → Delegation

/-- Whether a handler works by a plan. -/
structure InputHandler.Follows (i : InputHandler) (plan : Plan) : Prop where
  wellMade : ∀ h sender literal c s, (plan h sender literal c s).WellMade
  convert_eq : ∀ h sender nested literal c s,
    i.convert h sender nested literal c s = ((plan h sender literal c s).ending nested).result

namespace Plan

/-- The plan to have the whole literal read as another class, and to pass a failure of this on in
    some contexts. -/
def delegate (other : Class) (contexts : List String) : Plan := fun _ _ literal _ s =>
  .asks other literal s .gives (fun _ => some contexts) .refuses

variable (n : ℕ) (server? : Option (Ref .server)) (c other : Class) (polymorphic : Bool)

theorem wellMade_delegate (contexts : List String) (h : Hierarchy) (sender : Option Sender)
    (literal : String) (target : Class) (s : Store) :
    (delegate other contexts h sender literal target s).WellMade :=
  ⟨fun _ _ => trivial, fun _ _ hfault => hfault⟩

theorem follows_delegate :
    (scriptedInput n server? c polymorphic (.delegate other)).Follows (delegate other []) where
  wellMade := wellMade_delegate other []
  convert_eq h sender nested literal target s := by
    change nested other literal s = _
    rw [delegate, Delegation.ending]
    rcases nested other literal s with ⟨_ | _, t⟩ <;> rfl

theorem follows_delegateInContext (context : String) :
    (scriptedInput n server? c polymorphic (.delegateInContext other context)).Follows
      (delegate other [context]) where
  wellMade := wellMade_delegate other [context]
  convert_eq h sender nested literal target s := by
    change ExceptT.adapt (Fault.context context) (nested other literal) s = _
    rw [adapt_apply, delegate, Delegation.ending]
    rcases nested other literal s with ⟨_ | _, t⟩ <;> rfl

end Plan

/-! ## Conversions inside one another -/

/-- A conversion, with how many others there may be inside one another in it. -/
structure Request where
  depth : ℕ
  class_ : Class
  literal : String
  store : Store

namespace Registry

/-- Whether each handler works by its plan. -/
def Follows (r : Registry) (plan : InputHandler → Plan) : Prop := ∀ i ∈ r.inputs, i.Follows (plan i)

variable (r : Registry) (h : Hierarchy) (sender : Option Sender) (plan : InputHandler → Plan)

/-- What comes of a conversion. -/
def read (q : Request) : Except ConversionFault (Value × Store) :=
  (r.attemptWithin h sender q.depth q.class_ q.literal).answer q.store

/-- How a conversion ends. Without a handler, or without room left for it, the registry itself
    refuses it. -/
def ending (q : Request) : Delegation.Ending :=
  if q.literal = nullToken then .given none q.store
  else
    match r.inputFor? h q.class_, q.depth with
    | none, _ => .refused (.noHandler (h.path q.class_)) q.store
    | some _, 0 => .refused (.noRoom (h.path q.class_)) q.store
    | some i, depth + 1 =>
      (plan i h sender q.literal q.class_ q.store).ending (r.nestedWithin h sender depth)

/-- Whether a conversion only passes on that another one, inside it, has failed. -/
def PassesOn (q q' : Request) : Prop :=
  q.depth = q'.depth + 1 ∧ ∃ fault contexts t,
    r.ending h sender plan q = .passedOn q'.class_ q'.literal q'.store fault contexts t

/-- Whether a conversion, or one from which it passes the failure on over however many others, is
    refused with this fault by its handler or by the registry itself. -/
def Innermost (q b : Request) (fault : Fault) : Prop :=
  Relation.ReflTransGen (r.PassesOn h sender plan) q b ∧
    ∃ t, r.ending h sender plan b = .refused fault t

variable {r h sender plan}

/-- What a conversion does is what its handler does, who works by a plan. -/
theorem attemptWithin_eq_result (hr : r.Follows plan) (q : Request) :
    r.attemptWithin h sender q.depth q.class_ q.literal q.store =
      ((r.ending h sender plan q).result.1.mapError .wrap, (r.ending h sender plan q).result.2) := by
  rw [ending]
  by_cases hnull : q.literal = nullToken
  · rw [if_pos hnull]
    cases q.depth with
    | zero => rw [attemptWithin_zero, if_pos hnull]; rfl
    | succ depth => rw [attemptWithin_succ, if_pos hnull]; rfl
  · rw [if_neg hnull]
    cases q.depth with
    | zero =>
      rw [attemptWithin_zero, if_neg hnull]
      cases r.inputFor? h q.class_ <;> rfl
    | succ depth =>
      rw [attemptWithin_succ, if_neg hnull]
      cases hi : r.inputFor? h q.class_ with
      | none => rfl
      | some i =>
        dsimp only
        rw [adapt_apply, (hr i (mem_of_inputFor? hi)).convert_eq]

theorem read_eq_result (hr : r.Follows plan) (q : Request) :
    r.read h sender q = answerOf (r.ending h sender plan q).result := by
  rw [read, Attempt.answer, attemptWithin_eq_result hr]
  rcases (r.ending h sender plan q).result with ⟨_ | v, t⟩ <;> rfl

/-- A handler is told of the failure of a part as a fault. -/
theorem exists_read_of_nestedWithin {depth : ℕ} {c : Class} {part : String} {s t : Store}
    {fault : Fault} (hnested : r.nestedWithin h sender depth c part s = (.error fault, t)) :
    ∃ e, r.read h sender ⟨depth, c, part, s⟩ = .error e ∧ fault = e.toFault := by
  rw [nestedWithin, Attempt.toAct, adapt_apply] at hnested
  rcases hread : r.attemptWithin h sender depth c part s with ⟨e | v, u⟩
  · rw [hread] at hnested
    cases hnested
    exact ⟨e, Attempt.answer_eq_error_iff.2 ⟨_, hread⟩, rfl⟩
  · rw [hread] at hnested
    cases hnested

/-- What a conversion passes on is the failure of the other one. -/
theorem exists_read_of_passedOn {q : Request} {c : Class} {part : String} {s t : Store}
    {fault : Fault} {contexts : List String}
    (hq : r.ending h sender plan q = .passedOn c part s fault contexts t) :
    ∃ depth e, q.depth = depth + 1 ∧ r.read h sender ⟨depth, c, part, s⟩ = .error e ∧
      fault = e.toFault := by
  rw [ending] at hq
  split at hq
  · cases hq
  · split at hq
    · cases hq
    · cases hq
    · rename_i i depth _ hdepth
      obtain ⟨e, he, hfault⟩ := exists_read_of_nestedWithin (Delegation.nested_of_passedOn hq)
      exact ⟨depth, e, hdepth, he, hfault⟩

/-- A conversion comes to the same as the one that it passes the failure on from. -/
theorem read_eq_of_passesOn (hr : r.Follows plan) {q q' : Request}
    (hq : r.PassesOn h sender plan q q') : r.read h sender q = r.read h sender q' := by
  obtain ⟨hdepth, fault, contexts, t, hend⟩ := hq
  obtain ⟨depth, e, hdepth', he, rfl⟩ := exists_read_of_passedOn hend
  obtain rfl : q'.depth = depth := Nat.succ.inj (hdepth.symm.trans hdepth')
  rw [read_eq_result hr, hend, show r.read h sender q' = .error e from he]
  exact congrArg Except.error (ConversionFault.wrap_within_toFault contexts e)

theorem read_eq_of_reflTransGen (hr : r.Follows plan) {q b : Request}
    (hq : Relation.ReflTransGen (r.PassesOn h sender plan) q b) :
    r.read h sender q = r.read h sender b := by
  induction hq with
  | refl => rfl
  | tail _ hstep ih => exact ih.trans (read_eq_of_passesOn hr hstep)

/-- A handler refuses literals with faults that are failures of conversions once at most, as long as
    the failures inside it are. -/
theorem collapsed_of_refused (hr : r.Follows plan) {q : Request} {fault : Fault} {t : Store}
    (hq : r.ending h sender plan q = .refused fault t)
    (hnested : ∀ depth c part s e, q.depth = depth + 1 →
      r.read h sender ⟨depth, c, part, s⟩ = .error e → e.Rooted) : fault.Collapsed := by
  rw [ending] at hq
  split at hq
  · cases hq
  · split at hq
    · cases hq
      exact Fault.collapsed_of_conversionCause? rfl
    · cases hq
      exact Fault.collapsed_of_conversionCause? rfl
    · rename_i i depth hi hdepth
      refine ((hr i (mem_of_inputFor? hi)).wellMade _ _ _ _ _).collapsed_of_refused ?_ hq
      intro c part s fault t hfault
      obtain ⟨e, he, rfl⟩ := exists_read_of_nestedWithin hfault
      exact (hnested depth c part s e hdepth he).collapsed_toFault

/-- The cause of a failure is not itself the failure of a conversion. -/
theorem rooted_of_read (hr : r.Follows plan) {q : Request} {e : ConversionFault}
    (he : r.read h sender q = .error e) : e.Rooted := by
  -- Nested conversions have less depth left.
  have hnested (depth : ℕ) (c : Class) (part : String) (s : Store) (e : ConversionFault)
      (hdepth : q.depth = depth + 1) (he : r.read h sender ⟨depth, c, part, s⟩ = .error e) :
      e.Rooted :=
    rooted_of_read hr he
  have hread : r.read h sender q = _ := read_eq_result hr q
  rw [he] at hread
  rcases hend : r.ending h sender plan q with
    ⟨v, s⟩ | ⟨fault, t⟩ | ⟨c, part, s, fault, contexts, t⟩
  · rw [hend] at hread
    cases hread
  · rw [hend] at hread
    cases hread
    exact ConversionFault.rooted_wrap (collapsed_of_refused hr hend hnested)
  · obtain ⟨depth, e', hdepth, he', rfl⟩ := exists_read_of_passedOn hend
    rw [hend] at hread
    obtain rfl : e = e' :=
      (Except.error.inj hread).trans (ConversionFault.wrap_within_toFault contexts e')
    exact hnested depth c part s e hdepth he'
termination_by q.depth

/-- A failure comes from some conversion that did not pass it on. -/
theorem exists_innermost (hr : r.Follows plan) {q : Request} {e : ConversionFault}
    (he : r.read h sender q = .error e) : ∃ b fault, r.Innermost h sender plan q b fault := by
  rcases hend : r.ending h sender plan q with
    ⟨v, s⟩ | ⟨fault, t⟩ | ⟨c, part, s, fault, contexts, t⟩
  · rw [read_eq_result hr, hend] at he
    cases he
  · exact ⟨q, fault, .refl, t, hend⟩
  · -- The failure of the part comes from somewhere, and this one from there.
    obtain ⟨depth, e', hdepth, he', -⟩ := exists_read_of_passedOn hend
    obtain ⟨b, fault', hb, hfault'⟩ := exists_innermost hr he'
    exact ⟨b, fault', .head ⟨hdepth, fault, contexts, t, hend⟩ hb, hfault'⟩
termination_by q.depth

/-- A failure is that of the conversion that it comes from, wrapped once. -/
theorem eq_wrap_of_innermost (hr : r.Follows plan) {q b : Request} {fault : Fault}
    (hb : r.Innermost h sender plan q b fault) {e : ConversionFault}
    (he : r.read h sender q = .error e) : r.read h sender b = .error e ∧ e = .wrap fault := by
  obtain ⟨hpath, t, hend⟩ := hb
  have hread : r.read h sender b = .error e := (read_eq_of_reflTransGen hr hpath) ▸ he
  refine ⟨hread, ?_⟩
  rw [read_eq_result hr, hend] at hread
  exact (Except.error.inj hread).symm

/-- A failure has one cause, which is not itself the failure of a conversion, and it is the failure
    of the conversion that it comes from, however many others have passed it on, each in whatever
    contexts: its cause is what the literal was refused with there. And wrapping failures again,
    however often, does nothing to them. -/
theorem root_cause (hr : r.Follows plan) :
    (∀ (h : Hierarchy) (sender : Option Sender) (q : Request) (e : ConversionFault),
      r.read h sender q = .error e →
        e.cause.conversionCause? = none ∧
        (∃ b fault, r.Innermost h sender plan q b fault) ∧
        ∀ b fault, r.Innermost h sender plan q b fault →
          r.read h sender b = .error e ∧ e = .wrap fault ∧
          (fault.conversionCause? = none →
            e.cause = fault ∧ (e.isNoHandler ↔ ∃ path, fault.core = .noHandler path))) ∧
    ∀ (n : ℕ) (e : ConversionFault), (fun e => .wrap e.toFault)^[n] e = e := by
  refine ⟨fun h sender q e he => ⟨rooted_of_read hr he, exists_innermost hr he, ?innermost⟩, ?wrap⟩
  case innermost =>
    intro b fault hb
    obtain ⟨hread, hwrap⟩ := eq_wrap_of_innermost hr hb he
    refine ⟨hread, hwrap, fun hfault => ?_⟩
    have hcause : e.cause = fault := hwrap ▸ ConversionFault.cause_wrap hfault
    refine ⟨hcause, ?_⟩
    rw [ConversionFault.isNoHandler, hcause]
    cases fault.core <;> simp
  case wrap =>
    exact fun n e => ConversionFault.iterate_wrap_within [] n e

/-- Whole numbers are read as texts, and texts as decimal numbers, which nothing reads. -/
theorem root_cause_of_missing_handler :
    let numbers := scriptedInput 0 none (.scalar .int) false (.delegateInContext .string "as text")
    let texts :=
      scriptedInput 1 none .string false (.delegateInContext (.scalar .double) "as a decimal")
    let r := (empty.registerAll [.input numbers, .input texts]).2
    ∃ e, r.instantiate .builtins none (.scalar .int) "7" .empty = .error e ∧
      e.cause.conversionCause? = none ∧ e.isNoHandler := by
  intro numbers texts r
  let plan (i : InputHandler) : Plan :=
    if i.relevant = .string then .delegate (.scalar .double) ["as a decimal"]
    else .delegate .string ["as text"]
  have hfollows : r.Follows plan := by
    intro i hi
    have hcases : i ∈ [numbers, texts] := hi
    rcases List.mem_pair.1 hcases with rfl | rfl
    · exact Plan.follows_delegateInContext 0 none _ _ _ _
    · exact Plan.follows_delegateInContext 1 none _ _ _ _
  have hread : r.instantiate .builtins none (.scalar .int) "7" .empty =
      .error ⟨.noHandler "double"⟩ := by
    cbv
  exact ⟨_, hread, ((root_cause hfollows).1 .builtins none
    ⟨r.room, .scalar .int, "7", .empty⟩ _ hread).1, rfl⟩

end Registry

end Chainwalk
