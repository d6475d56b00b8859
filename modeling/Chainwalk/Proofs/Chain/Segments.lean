import Chainwalk.Proofs.Chain.Reading

/-!
# Segments

A chain is cut into *segments*, each a signature with the literals of one call. Here is what
it means for a segment to be carried out (`Engine.Performs`), for some segments to be carried
out one after another (`Engine.Executes`), and for a walk to stop at the segment that comes
next (`Engine.Stops`), with the store that each leaves and the calls whose bodies run.

* `Engine.run_segments`: a walk leads to a value exactly if its tokens are segments that are
  carried out, and fails exactly if it stops after some that are; the bodies that run are
  those of the segments, each once and in order.
-/

namespace Chainwalk

/-- A signature with the literals that follow it. -/
structure Segment where
  token : String
  literals : List String

namespace Segment

/-- The tokens of a segment. -/
def tokens (g : Segment) : List String := g.token :: g.literals

end Segment

namespace Engine

/-! ## The relations -/

section

variable (e : Engine)

/-- The literals are read as the values, one by one from left to right. -/
inductive Converts : List Class → List String → Store → List Value → Store → Prop
  | nil {s : Store} : Converts [] [] s [] s
  | cons {c : Class} {cs : List Class} {l : String} {ls : List String} {v : Value}
      {vs : List Value} {s t u : Store} :
      e.registry.attempt e.hierarchy e.sender c l s = (.ok v, t) →
      Converts cs ls t vs u → Converts (c :: cs) (l :: ls) s (v :: vs) u

/-- The segment is carried out by the call: the signature is in the index of the class of
    the receiver, as many literals as there are parameters convert, access is granted, the
    body runs, and its result is not null where there must be one. -/
structure Performs (g : Segment) (k : Call) (s : Store) (w : Value) (t : Store) : Prop where
  known : (MethodIndex.build e.table k.receiver.class_).get? g.token = some k.method
  converts : e.Converts k.method.params g.literals s k.args k.store
  permitted : e.access.permits e.hierarchy k.method
  allowed : k.method.obstacle? e.hierarchy k.receiver k.args = none
  body : k.effect e.hierarchy = (.ok w, t)
  nonnull : k.method.returns.isSome → w.isSome

/-- The segments are carried out by the calls, each on the result of the one before. -/
inductive Executes : Value → Store → List Segment → List Call → Value → Store → Prop
  | nil {v : Value} {s : Store} : Executes v s [] [] v s
  | cons {g : Segment} {gs : List Segment} {k : Call} {ks : List Call} {w x : Value}
      {s t u : Store} : e.Performs g k s w t → Executes w t gs ks x u →
      Executes (some k.receiver) s (g :: gs) (k :: ks) x u

/-- How a walk stops at its next segment, which calls still run their bodies there, and what
    is left. Only the error of a body and its null result come after the body; whatever else
    stops the walk leaves what the literals leave that have been read by then. -/
inductive Stops : List String → Value → Store → Halt → List Call → Store → Prop
  | onNull {token : String} {rest : List String} {s : Store} :
      Stops (token :: rest) none s (.callOnNull token) [] s
  | unknown {token : String} {rest : List String} {recv : Object} {s : Store} :
      (MethodIndex.build e.table recv.class_).get? token = none →
      Stops (token :: rest) (some recv) s
        (.unknownMethod token (e.hierarchy.name recv.class_)) [] s
  /-- A literal does not convert, whether or not there are enough of them. -/
  | literal {token l : String} {ls more : List String} {recv : Object} {m : Method}
      {cs later : List Class} {c : Class} {vs : List Value} {s t u : Store}
      {cause : ConversionFault} :
      (MethodIndex.build e.table recv.class_).get? token = some m →
      m.params = cs ++ c :: later → e.Converts cs ls s vs t →
      e.registry.attempt e.hierarchy e.sender c l t = (.error cause, u) →
      Stops (token :: (ls ++ l :: more)) (some recv) s (.badArgument token cause) [] u
  /-- All that is left converts, but it is too little. -/
  | short {token : String} {ls : List String} {recv : Object} {m : Method}
      {cs later : List Class} {c : Class} {vs : List Value} {s t : Store} :
      (MethodIndex.build e.table recv.class_).get? token = some m →
      m.params = cs ++ c :: later → e.Converts cs ls s vs t →
      Stops (token :: ls) (some recv) s
        (.tooFewArguments token m.params.length (m.returnName e.hierarchy) ls.length) [] t
  | denied {token : String} {ls more : List String} {recv : Object} {m : Method}
      {vs : List Value} {s t : Store} :
      (MethodIndex.build e.table recv.class_).get? token = some m →
      e.Converts m.params ls s vs t → e.access.permits e.hierarchy m = false →
      Stops (token :: (ls ++ more)) (some recv) s
        (.raised token (.illegalAccess (m.signature e.hierarchy))) [] t
  /-- The receiver or an argument is not of the declared class; the body does not run. -/
  | forbidden {token : String} {ls more : List String} {k : Call} {s : Store} {fault : Fault} :
      (MethodIndex.build e.table k.receiver.class_).get? token = some k.method →
      e.Converts k.method.params ls s k.args k.store →
      e.access.permits e.hierarchy k.method = true →
      k.method.obstacle? e.hierarchy k.receiver k.args = some fault →
      Stops (token :: (ls ++ more)) (some k.receiver) s (.raised token fault) [] k.store
  /-- The body fails: its own fault is the cause. -/
  | body {token : String} {ls more : List String} {k : Call} {s t : Store} {fault : Fault} :
      (MethodIndex.build e.table k.receiver.class_).get? token = some k.method →
      e.Converts k.method.params ls s k.args k.store →
      e.access.permits e.hierarchy k.method = true →
      k.method.obstacle? e.hierarchy k.receiver k.args = none →
      k.effect e.hierarchy = (.error fault, t) →
      Stops (token :: (ls ++ more)) (some k.receiver) s (.raised token fault) [k] t
  /-- The body gives null where there must be a result. -/
  | null {token : String} {ls more : List String} {k : Call} {s t : Store} :
      (MethodIndex.build e.table k.receiver.class_).get? token = some k.method →
      e.Converts k.method.params ls s k.args k.store →
      e.access.permits e.hierarchy k.method = true →
      k.method.obstacle? e.hierarchy k.receiver k.args = none →
      k.effect e.hierarchy = (.ok none, t) →
      k.method.returns.isSome →
      Stops (token :: (ls ++ more)) (some k.receiver) s (.returnedNull token) [k] t

end

variable {e : Engine}

/-! ## Reading literals -/

theorem Converts.length_eq {cs : List Class} {ls : List String} {s t : Store} {vs : List Value}
    (hc : e.Converts cs ls s vs t) : ls.length = cs.length ∧ vs.length = cs.length := by
  induction hc with
  | nil => exact ⟨rfl, rfl⟩
  | cons _ _ ih => exact ⟨congrArg _ ih.1, congrArg _ ih.2⟩

/-- Reading goes on behind literals that convert. -/
theorem Converts.attemptEach_append {cs : List Class} {ls : List String} {s t : Store}
    {vs : List Value} (hc : e.Converts cs ls s vs t) (ds : List Class) (ms : List String) :
    e.registry.attemptEach e.hierarchy e.sender (cs ++ ds) (ls ++ ms) s =
      match e.registry.attemptEach e.hierarchy e.sender ds ms t with
      | (.error cause, u) => (.error cause, u)
      | (.ok ws, u) => (.ok (vs ++ ws), u) := by
  induction hc with
  | nil =>
    rcases hr : e.registry.attemptEach e.hierarchy e.sender ds ms _ with ⟨_ | ws, u⟩ <;>
      simp [hr]
  | cons hl _ ih =>
    rw [List.cons_append, List.cons_append, Registry.attemptEach_cons, hl]
    simp only [ih]
    rcases e.registry.attemptEach e.hierarchy e.sender ds ms _ with ⟨_ | ws, u⟩ <;> rfl

/-- The literals that are read are those up to the shorter of the two lists. -/
theorem converts_of_attemptEach {cs : List Class} {ls : List String} {s t : Store}
    {vs : List Value}
    (hr : e.registry.attemptEach e.hierarchy e.sender cs ls s = (.ok vs, t)) :
    e.Converts (cs.take ls.length) (ls.take cs.length) s vs t := by
  induction cs generalizing ls s vs with
  | nil =>
    rw [Registry.attemptEach_nil_left] at hr
    cases hr
    simpa using Converts.nil
  | cons c cs ih =>
    cases ls with
    | nil =>
      rw [Registry.attemptEach_nil_right] at hr
      cases hr
      simpa using Converts.nil
    | cons l ls =>
      rw [Registry.attemptEach_cons] at hr
      split at hr
      · cases hr
      · rename_i hl
        split at hr
        · cases hr
        · rename_i hrest
          cases hr
          exact .cons hl (ih hrest)

/-- The first literal that does not convert stands behind some that do. -/
theorem exists_of_attemptEach_error {cs : List Class} {ls : List String} {s u : Store}
    {cause : ConversionFault}
    (hr : e.registry.attemptEach e.hierarchy e.sender cs ls s = (.error cause, u)) :
    ∃ ds c later ms l more vs t, cs = ds ++ c :: later ∧ ls = ms ++ l :: more ∧
      e.Converts ds ms s vs t ∧
      e.registry.attempt e.hierarchy e.sender c l t = (.error cause, u) := by
  induction cs generalizing ls s with
  | nil =>
    rw [Registry.attemptEach_nil_left] at hr
    cases hr
  | cons c cs ih =>
    cases ls with
    | nil =>
      rw [Registry.attemptEach_nil_right] at hr
      cases hr
    | cons l ls =>
      rw [Registry.attemptEach_cons] at hr
      split at hr
      · rename_i hl
        cases hr
        exact ⟨[], c, cs, [], l, ls, [], s, rfl, rfl, .nil, hl⟩
      · rename_i hl
        split at hr
        · rename_i hrest
          cases hr
          obtain ⟨ds, d, later, ms, l', more, vs, t, rfl, rfl, hc, hd⟩ := ih hrest
          exact ⟨c :: ds, d, later, l :: ms, l', more, _, t, rfl, rfl, .cons hl hc, hd⟩
        · cases hr

/-! ## One segment -/

section

variable {token : String} {rest : List String} {v w : Value} {s t : Store} {k : Call}
  {halt : Halt}

/-- A call whose literals convert and to which access is granted is made. -/
theorem next_of_converts {ls : List String}
    (hm : (MethodIndex.build e.table k.receiver.class_).get? token = some k.method)
    (hc : e.Converts k.method.params ls s k.args k.store)
    (hp : e.access.permits e.hierarchy k.method) (more : List String) :
    e.next token (ls ++ more) (some k.receiver) s = .ok k :=
  next_eq_ok_iff.2 ⟨rfl, hm, by simpa using hc.attemptEach_append [] more, hc.length_eq.2, hp⟩

/-- The literals of a call that is made are those at the front. -/
theorem converts_of_next (hk : e.next token rest v s = .ok k) :
    e.Converts k.method.params (rest.take k.method.params.length) s k.args k.store := by
  have hle := length_params_le_of_next hk
  obtain ⟨-, -, hr, -⟩ := next_eq_ok_iff.1 hk
  have hc := converts_of_attemptEach hr
  rwa [List.take_of_length_le hle] at hc

theorem Performs.next {g : Segment} (hp : e.Performs g k s w t) (more : List String) :
    e.next g.token (g.literals ++ more) (some k.receiver) s = .ok k :=
  next_of_converts hp.known hp.converts hp.permitted more

theorem Performs.finish {g : Segment} (hp : e.Performs g k s w t) :
    k.finish e.hierarchy g.token = (.ok w, t) :=
  Call.finish_eq_ok_iff.2 ⟨hp.allowed, hp.body, hp.nonnull⟩

/-- The body of a segment that is carried out runs. -/
theorem Performs.runs {g : Segment} (hp : e.Performs g k s w t) : k.runs e.hierarchy := by
  rw [Call.runs, hp.allowed]
  rfl

/-- A call after which the walk goes on carries out its segment. -/
theorem performs_of_next (hk : e.next token rest v s = .ok k)
    (hf : k.finish e.hierarchy token = (.ok w, t)) :
    e.Performs ⟨token, rest.take k.method.params.length⟩ k s w t := by
  obtain ⟨-, hm, -, -, hp⟩ := next_eq_ok_iff.1 hk
  obtain ⟨ho, hb, hn⟩ := Call.finish_eq_ok_iff.1 hf
  exact ⟨hm, converts_of_next hk, hp, ho, hb, hn⟩

/-- A walk stops where the next call is not made. -/
theorem stops_of_next_error (hk : e.next token rest v s = .error (halt, t)) :
    e.Stops (token :: rest) v s halt [] t := by
  cases v with
  | none => cases hk; exact .onNull
  | some recv =>
    rw [next] at hk
    split at hk
    · rename_i hm
      cases hk
      exact .unknown hm
    · rename_i m hm
      rw [prepare, collect] at hk
      rcases hr : e.registry.attemptEach e.hierarchy e.sender m.params rest s with
        ⟨cause | args, u⟩
      · rw [hr] at hk
        cases hk
        obtain ⟨cs, c, later, ls, l, more, vs, u, hps, rfl, hc, hl⟩ :=
          exists_of_attemptEach_error hr
        exact .literal hm hps hc hl
      · have hlen := Registry.length_of_attemptEach _ _ _ hr
        have hc := converts_of_attemptEach hr
        rw [hr] at hk
        -- All that was read converts: there is enough of it and access is denied, or too little.
        by_cases hlength : args.length = m.params.length
        · rw [List.take_of_length_le (by omega : m.params.length ≤ rest.length)] at hc
          simp only [hlength, if_true] at hk
          split at hk
          · cases hk
          · rename_i hp
            cases hk
            rw [← List.take_append_drop m.params.length rest]
            exact .denied hm hc (Bool.eq_false_iff.2 hp)
        · have hlt : rest.length < m.params.length := by omega
          rw [List.take_of_length_le (Nat.le_of_lt hlt)] at hc
          simp only [hlength, if_false] at hk
          cases hk
          rw [show args.length = rest.length by omega]
          have hps : m.params = m.params.take rest.length ++
              m.params[rest.length] :: m.params.drop (rest.length + 1) := by
            rw [← List.drop_eq_getElem_cons hlt, List.take_append_drop]
          exact .short hm hps hc

/-- A walk stops at a call that ends it. -/
theorem stops_of_finish_error (hk : e.next token rest v s = .ok k)
    (hf : k.finish e.hierarchy token = (.error halt, t)) :
    e.Stops (token :: rest) v s halt ([k].filter (Call.runs e.hierarchy)) t := by
  obtain ⟨rfl, hm, -, -, hp⟩ := next_eq_ok_iff.1 hk
  have hc := converts_of_next hk
  rw [← List.take_append_drop k.method.params.length rest]
  rcases Call.finish_eq_error_iff.1 hf with
    ⟨fault, ho, rfl, rfl⟩ | ⟨ho, ⟨fault, hb, rfl⟩ | ⟨hb, hr, rfl⟩⟩
  · rw [List.filter_cons_of_neg (by simp [Call.runs, ho])]
    exact .forbidden hm hc hp ho
  · rw [List.filter_cons_of_pos (by simp [Call.runs, ho])]
    exact .body hm hc hp ho hb
  · rw [List.filter_cons_of_pos (by simp [Call.runs, ho])]
    exact .null hm hc hp ho hb hr

/-- How a walk stops, by its next call: it is not made, or it ends the walk. -/
theorem Stops.cases {tokens : List String} {ran : List Call}
    (hs : e.Stops tokens v s halt ran t) :
    ∃ token rest, tokens = token :: rest ∧
      ((e.next token rest v s = .error (halt, t) ∧ ran = []) ∨
        ∃ k, e.next token rest v s = .ok k ∧ k.finish e.hierarchy token = (.error halt, t) ∧
          ran = [k].filter (Call.runs e.hierarchy)) := by
  cases hs with
  | onNull => exact ⟨_, _, rfl, .inl ⟨rfl, rfl⟩⟩
  | unknown hm => exact ⟨_, _, rfl, .inl ⟨by rw [next, hm], rfl⟩⟩
  | literal hm hps hc hl =>
    refine ⟨_, _, rfl, .inl ⟨?_, rfl⟩⟩
    rw [next, hm]
    dsimp only
    rw [prepare, collect, hps, hc.attemptEach_append, Registry.attemptEach_cons, hl]
  | @short _ ls _ m _ later c _ _ _ hm hps hc =>
    refine ⟨_, _, rfl, .inl ⟨?_, rfl⟩⟩
    have hr := hc.attemptEach_append (c :: later) []
    rw [List.append_nil, ← hps] at hr
    have hlength := hc.length_eq
    rw [next, hm]
    dsimp only
    rw [prepare, collect, hr]
    simp [hps, hlength.1, hlength.2]
  | @denied _ _ more _ _ _ _ _ hm hc hp =>
    refine ⟨_, _, rfl, .inl ⟨?_, rfl⟩⟩
    have hr := hc.attemptEach_append [] more
    rw [List.append_nil] at hr
    rw [next, hm]
    dsimp only
    rw [prepare, collect, hr]
    simp [hc.length_eq.2, hp]
  | @forbidden _ _ _ k _ fault hm hc hp ho =>
    refine ⟨_, _, rfl, .inr ⟨k, next_of_converts hm hc hp _, ?_, by simp [Call.runs, ho]⟩⟩
    exact Call.finish_eq_error_iff.2 (.inl ⟨fault, ho, rfl, rfl⟩)
  | @body _ _ _ k _ _ fault hm hc hp ho hb =>
    refine ⟨_, _, rfl, .inr ⟨k, next_of_converts hm hc hp _, ?_, by simp [Call.runs, ho]⟩⟩
    exact Call.finish_eq_error_iff.2 (.inr ⟨ho, .inl ⟨fault, hb, rfl⟩⟩)
  | @null _ _ _ k _ _ hm hc hp ho hb hr =>
    refine ⟨_, _, rfl, .inr ⟨k, next_of_converts hm hc hp _, ?_, by simp [Call.runs, ho]⟩⟩
    exact Call.finish_eq_error_iff.2 (.inr ⟨ho, .inr ⟨hb, hr, rfl⟩⟩)

/-- Where a walk stops, it fails: with the halt, in the store and after the bodies that
    `Stops` tells. -/
theorem Stops.run_eq {tokens : List String} {ran : List Call}
    (hs : e.Stops tokens v s halt ran t) :
    (e.run tokens v s).outcome = .error halt ∧ (e.run tokens v s).store = t ∧
      e.bodies tokens v s = ran := by
  obtain ⟨token, rest, rfl, ⟨hk, rfl⟩ | ⟨k, hk, hf, rfl⟩⟩ := hs.cases
  · rw [run_of_next_error hk, bodies, calls_of_next_error hk]
    exact ⟨rfl, rfl, rfl⟩
  · rw [run_of_finish_error hk hf, bodies, calls_of_finish_error hk hf]
    exact ⟨rfl, rfl, rfl⟩

/-- Where a walk stops before a body runs, nothing has been done but reading literals. -/
theorem Stops.leavesAlone {tokens : List String} (hs : e.Stops tokens v s halt [] t) :
    e.LeavesAlone s t := by
  obtain ⟨_, _, -, ⟨hk, -⟩ | ⟨k, hk, hf, hran⟩⟩ := hs.cases
  · exact (readsTo_of_next_error hk).leavesAlone
  · -- The call is made, and its receiver or its arguments forbid that the body runs.
    rcases Call.finish_eq_error_iff.1 hf with ⟨_, -, -, rfl⟩ | ⟨ho, -⟩
    · exact (readsTo_of_next hk).leavesAlone
    · simp [Call.runs, ho] at hran

end

/-! ## Walks -/

/-- Behind segments that are carried out, a walk is that of the tokens left. -/
theorem Executes.run_eq {v w : Value} {s t : Store} {gs : List Segment} {ks : List Call}
    (hx : e.Executes v s gs ks w t) (rest : List String) :
    let tokens := gs.flatMap Segment.tokens ++ rest
    (e.run tokens v s).outcome = (e.run rest w t).outcome ∧
      (e.run tokens v s).store = (e.run rest w t).store ∧
      e.bodies tokens v s = ks ++ e.bodies rest w t := by
  induction hx with
  | nil => exact ⟨rfl, rfl, rfl⟩
  | @cons g gs k ks w x s t u hp _ ih =>
    intro tokens
    have hk := hp.next (gs.flatMap Segment.tokens ++ rest)
    have hdrop : (g.literals ++ (gs.flatMap Segment.tokens ++ rest)).drop
        k.method.params.length = gs.flatMap Segment.tokens ++ rest := by
      rw [← hp.converts.length_eq.1, List.drop_left]
    have htokens : tokens = g.token :: (g.literals ++ (gs.flatMap Segment.tokens ++ rest)) := by
      simp [tokens, Segment.tokens]
    rw [htokens, run_of_finish_ok hk hp.finish, bodies, calls_of_finish_ok hk hp.finish, hdrop,
      List.filter_cons_of_pos hp.runs]
    exact ⟨ih.1, ih.2.1, congrArg (k :: ·) ih.2.2⟩

/-- Every walk carries out segments to its end, or stops behind some. -/
theorem exists_executes (tokens : List String) (v : Value) (s : Store) :
    ∃ gs ks rest w t, tokens = gs.flatMap Segment.tokens ++ rest ∧ e.Executes v s gs ks w t ∧
      (rest = [] ∨ ∃ halt ran u, e.Stops rest w t halt ran u) := by
  induction tokens, v, s using e.walk_induction with
  | nil v s => exact ⟨[], [], [], v, s, rfl, .nil, .inl rfl⟩
  | refused token rest v s halt t hk =>
    exact ⟨[], [], _, v, s, rfl, .nil, .inr ⟨_, _, _, stops_of_next_error hk⟩⟩
  | failed token rest v s k halt t hk hf =>
    exact ⟨[], [], _, v, s, rfl, .nil, .inr ⟨_, _, _, stops_of_finish_error hk hf⟩⟩
  | made token rest v s k w t hk hf ih =>
    obtain ⟨gs, ks, left, x, u, htokens, hx, hend⟩ := ih
    obtain rfl := receiver_of_next hk
    refine ⟨_, k :: ks, left, x, u, ?_, .cons (performs_of_next hk hf) hx, hend⟩
    simp only [List.flatMap_cons, Segment.tokens, List.cons_append, List.append_assoc, ← htokens,
      List.take_append_drop]

/-- A walk leads to a value exactly if its tokens are segments that are carried out up to that
    value, and fails exactly if it stops behind segments that are. The bodies that run are
    those of the segments carried out, each once and in order, and where the walk stops that
    of the last call if it is the body that fails or gives null. If no body runs there, what is
    left is what the segments have left, but for reading literals. -/
theorem run_segments (e : Engine) (tokens : List String) (v : Value) (s : Store) :
    (∀ w t, (e.run tokens v s).outcome = .ok w ∧ (e.run tokens v s).store = t ↔
      ∃ gs, tokens = gs.flatMap Segment.tokens ∧
        e.Executes v s gs (e.bodies tokens v s) w t) ∧
    (∀ halt t, (e.run tokens v s).outcome = .error halt ∧ (e.run tokens v s).store = t ↔
      ∃ gs rest ks ran w u, tokens = gs.flatMap Segment.tokens ++ rest ∧
        e.Executes v s gs ks w u ∧ e.Stops rest w u halt ran t ∧
        e.bodies tokens v s = ks ++ ran ∧ (ran = [] → e.LeavesAlone u t)) := by
  -- The walk has some segments behind it in any case; its outcome tells which end it came to.
  obtain ⟨gs, ks, rest, x, u, htokens, hx, hend⟩ := e.exists_executes tokens v s
  obtain ⟨hout, hstore, hbodies⟩ := hx.run_eq rest
  rw [← htokens] at hout hstore hbodies
  refine ⟨fun w t => ⟨?_, ?_⟩, fun halt t => ⟨?_, ?_⟩⟩
  · rintro ⟨hw, rfl⟩
    rcases hend with rfl | ⟨halt, ran, t, hs⟩
    · simp only [run_nil, bodies, calls_nil, List.filter_nil, List.append_nil] at *
      rw [hout, Except.ok.injEq] at hw
      rw [hstore, hbodies, ← hw]
      exact ⟨gs, htokens, hx⟩
    · rw [hout, hs.run_eq.1] at hw
      cases hw
  · rintro ⟨gs, rfl, hx⟩
    have hrun := hx.run_eq []
    simp only [List.append_nil, run_nil] at hrun
    exact ⟨hrun.1, hrun.2.1⟩
  · rintro ⟨hhalt, rfl⟩
    rcases hend with rfl | ⟨halt', ran, t, hs⟩
    · rw [hout, run_nil] at hhalt
      cases hhalt
    · obtain ⟨hhalt', rfl, rfl⟩ := hs.run_eq
      rw [hout, hhalt', Except.error.injEq] at hhalt
      rw [hstore, ← hhalt]
      exact ⟨gs, rest, ks, _, x, u, htokens, hx, hs, hbodies,
        fun hran => (hran ▸ hs).leavesAlone⟩
  · rintro ⟨gs, rest, ks, ran, w, u, rfl, hx, hs, -⟩
    obtain ⟨hout, hstore, -⟩ := hx.run_eq rest
    exact ⟨hout.trans hs.run_eq.1, hstore.trans hs.run_eq.2.1⟩

end Engine

end Chainwalk
