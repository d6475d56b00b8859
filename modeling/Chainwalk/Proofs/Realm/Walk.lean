import Chainwalk.Proofs.Chain.Reading
import Chainwalk.Proofs.Realm.Methods
import Chainwalk.Proofs.Seeds.Session

/-!
# Walks along a relation

Whatever is done between the calls of a walk is reading literals. So if reading goes along a
relation of realms, a walk goes from call to call along the relation, and so do the commands of a
plugin, one after another. What holds of the realm at the start is then known all along, if it is
known what the calls make of it.

* `Linked`: calls with nothing but steps along a relation between them;
* `Engine.linked_calls`, `Plugin.linked_calls`: the calls of a walk, and those of a command;
* `Plugin.states`, `Plugin.allCalls`: what commands lead through, and all their calls;
* `Plugin.invariant_states`, `Plugin.good_states_iff`: what is kept all along, and what is kept as
  long as no call spoils it.
-/

namespace Chainwalk

variable {R : Realm → Realm → Prop} {h : Hierarchy}

/-- The calls are made one after another, and between them the realm only goes along a relation. -/
inductive Linked (h : Hierarchy) (R : Realm → Realm → Prop) : Store → List Call → Store → Prop
  | nil {s t : Store} (hst : R s.realm t.realm) : Linked h R s [] t
  | cons {s t : Store} {k : Call} {ks : List Call} (hk : R s.realm k.store.realm)
      (hks : Linked h R (k.result h).2 ks t) : Linked h R s (k :: ks) t

/-- A walk goes on from where the call leads. -/
theorem Call.snd_finish (k : Call) (h : Hierarchy) (token : String) :
    (k.finish h token).2 = (k.result h).2 := by
  rw [finish]
  rcases k.result h with ⟨fault | _ | o, t⟩
  · cases fault <;> rfl
  · rfl
  · rfl

namespace Linked

variable {s t u : Store} {ks ls : List Call}

theorem trans_left [IsPreorder Realm R] (hst : R s.realm t.realm) (hks : Linked h R t ks u) :
    Linked h R s ks u := by
  cases hks with
  | nil htu => exact .nil (trans_of R hst htu)
  | cons hk hks => exact .cons (trans_of R hst hk) hks

/-- What is kept between the calls and by all of them holds in the end, and after every call. -/
theorem invariant {I : Realm → Prop} (hR : ∀ a b, R a b → I a → I b)
    (hcall : ∀ k ∈ ks, I k.store.realm → I (k.result h).2.realm) (hl : Linked h R s ks t)
    (hs : I s.realm) : I t.realm ∧ ∀ k ∈ ks, I (k.result h).2.realm := by
  induction hl with
  | nil hst => exact ⟨hR _ _ hst hs, fun _ hk => absurd hk List.not_mem_nil⟩
  | @cons s t k ks hk _ ih =>
    rw [List.forall_mem_cons] at hcall
    have hresult := hcall.1 (hR _ _ hk hs)
    obtain ⟨ht, hall⟩ := ih hcall.2 hresult
    exact ⟨ht, List.forall_mem_cons.2 ⟨hresult, hall⟩⟩

/-- What is kept between the calls holds after every call exactly if no call spoils it. -/
theorem good_iff {I G : Realm → Prop} {Bad : Call → Prop}
    (hR : ∀ a b, R a b → I a → I b ∧ (G a → G b))
    (hcall : ∀ k ∈ ks, I k.store.realm → I (k.result h).2.realm ∧
      (G k.store.realm → (G (k.result h).2.realm ↔ ¬Bad k)))
    (hl : Linked h R s ks t) (hs : I s.realm) (hgood : G s.realm) :
    ((∀ k ∈ ks, G (k.result h).2.realm) ↔ ∀ k ∈ ks, ¬Bad k) ∧
      ((∀ k ∈ ks, ¬Bad k) → G t.realm) := by
  induction hl with
  | nil hst => exact ⟨by simp, fun _ => (hR _ _ hst hs).2 hgood⟩
  | @cons s t k ks hk _ ih =>
    rw [List.forall_mem_cons] at hcall
    obtain ⟨hstore, hgoodstore⟩ := hR _ _ hk hs
    obtain ⟨hresult, hiff⟩ := hcall.1 hstore
    have hiff := hiff (hgoodstore hgood)
    have ih := ih hcall.2 hresult
    rw [List.forall_mem_cons, List.forall_mem_cons, hiff]
    -- Of what comes after a call that spoils it nothing need be known.
    refine ⟨and_congr_right fun hk => (ih (hiff.2 hk)).1, fun hall => ?_⟩
    exact (ih (hiff.2 hall.1)).2 hall.2

end Linked

/-! ## Walks -/

namespace Engine

variable [IsPreorder Realm R] {e : Engine} {server? : Option (Ref .server)}

/-- The calls of a walk are linked by reading literals. -/
theorem linked_calls (hr : e.registry = .shipped server?)
    (hstack : ∀ m n, Along R (Realm.newStack (.make m n))) (tokens : List String) (v : Value)
    (s : Store) : Linked e.hierarchy R s (e.calls tokens v s) (e.run tokens v s).store := by
  have hread (c : Class) (literal : String) :
      Along (InvImage R Store.realm) (e.registry.attempt e.hierarchy e.sender c literal) := by
    rw [hr]
    exact Registry.along_attempt hstack c literal
  induction tokens, v, s using e.walk_induction with
  | nil v s =>
    rw [calls_nil, run_nil]
    exact .nil (refl_of R s.realm)
  | refused token rest v s halt t hn =>
    rw [calls_of_next_error hn, run_of_next_error hn]
    exact .nil ((readsTo_of_next_error hn).related (R := InvImage R Store.realm) hread)
  | failed token rest v s k halt t hn hf =>
    have ht : (k.result e.hierarchy).2 = t := by rw [← k.snd_finish e.hierarchy token, hf]
    rw [calls_of_finish_error hn hf, run_of_finish_error hn hf]
    exact .cons ((readsTo_of_next hn).related (R := InvImage R Store.realm) hread)
      (.nil (ht ▸ refl_of R t.realm))
  | made token rest v s k w t hn hf ih =>
    have ht : (k.result e.hierarchy).2 = t := by rw [← k.snd_finish e.hierarchy token, hf]
    rw [calls_of_finish_ok hn hf, run_of_finish_ok hn hf]
    exact .cons ((readsTo_of_next hn).related (R := InvImage R Store.realm) hread) (ht ▸ ih)

/-- The methods that are called in a walk over the built-in classes are theirs. -/
theorem exists_mem_methods_of_mem_calls (he : e.table = .builtins) {tokens : List String}
    {v : Value} {s : Store} : ∀ k ∈ e.calls tokens v s, ∃ b : Builtin, k.method ∈ b.methods := by
  induction tokens, v, s using e.walk_induction with
  | nil v s => simp
  | refused token rest v s halt t hn => simp [calls_of_next_error hn]
  | failed token rest v s k halt t hn hf =>
    rw [calls_of_finish_error hn hf]
    exact List.forall_mem_singleton.2 (exists_mem_methods_of_next he hn)
  | made token rest v s k w t hn hf ih =>
    rw [calls_of_finish_ok hn hf]
    exact List.forall_mem_cons.2 ⟨exists_mem_methods_of_next he hn, ih⟩

end Engine

/-! ## Commands -/

namespace Plugin

variable {p : Plugin}

/-- The plugin as it is when it has been enabled, whatever may be called through it. -/
structure Ready (p : Plugin) : Prop where
  enabled : p.enabled = true
  registry : p.registry = .ofServer p.server

theorem ready_enable (hp : p.enabled = false) (hr : p.registry = .empty) : p.enable.Ready := by
  rw [enable_of_not_enabled hp, hr]
  exact ⟨rfl, by rw [Registry.ofServer, Registry.plain]⟩

theorem server_enable (p : Plugin) : p.enable.server = p.server := by
  rw [enable]
  split <;> rfl

theorem server_disable (p : Plugin) : p.disable.server = p.server := by
  rw [disable]
  split <;> rfl

theorem ready_make_enable (server : Ref .server) (access : AccessPolicy) :
    (make server access).enable.Ready :=
  ready_enable rfl rfl

/-- A command leaves the plugin ready, and on its server. -/
theorem Ready.execute (hp : p.Ready) (c : Config) (sender : Sender) (command : Command)
    (s : Store) :
    (p.execute c sender command s).2.1.Ready ∧
      (p.execute c sender command s).2.1.server = p.server := by
  have henabled := hp.enabled
  simp only [Plugin.execute, henabled, Bool.not_true, Bool.false_and, Bool.false_eq_true, if_false]
  have hconsult (classes : List Class) : (p.consult classes).Ready := ⟨hp.enabled, hp.registry⟩
  cases command with
  | help => exact ⟨hp, rfl⟩
  | reload =>
    have hdisable : p.disable =
        { p with registry := .empty, consulted := [], enabled := false } := by
      rw [disable, henabled]
      rfl
    refine ⟨?_, (server_enable _).trans (server_disable p)⟩
    dsimp only
    rw [hdisable]
    exact ready_enable rfl rfl
  | inspect target =>
    dsimp only
    split <;> exact ⟨hp, rfl⟩
  | methods target start =>
    dsimp only
    split
    · exact ⟨hp, rfl⟩
    · exact ⟨hconsult _, rfl⟩
  | chain target tokens =>
    dsimp only
    split
    · exact ⟨hp, rfl⟩
    · exact ⟨hconsult _, rfl⟩

theorem snd_resolve (p : Plugin) (sender : Sender) (target : Target) (s : Store) :
    (p.resolve sender target s).2 = (p.lookUpTarget sender target s).2 := by
  rw [resolve]
  rcases p.lookUpTarget sender target s with ⟨_ | _ | _, t⟩ <;> rfl

/-- Looking up what a command starts from is reading a literal, if anything. -/
theorem along_resolve_of_lookUp [IsPreorder Realm R] {sender : Sender}
    (hread : ∀ c ∈ [Class.player, .world, .entity, .block], ∀ literal,
      Along (InvImage R Store.realm) (p.lookUp sender c literal))
    (target : Target) (s : Store) : R s.realm (p.resolve sender target s).2.realm := by
  rw [snd_resolve]
  suffices Along (InvImage R Store.realm) (p.lookUpTarget sender target) from this s
  cases target with
  | sender => exact .pure sender.subject
  | server => exact .pure (some (Object.server p.server))
  | player literal | world literal | entity literal | block literal =>
    exact hread _ (by decide) literal

theorem Ready.along_resolve [IsPreorder Realm R] (hp : p.Ready)
    (hstack : ∀ m n, Along R (Realm.newStack (.make m n))) (sender : Sender) (target : Target)
    (s : Store) : R s.realm (p.resolve sender target s).2.realm := by
  refine along_resolve_of_lookUp (fun c _ literal => ?_) target s
  rw [lookUp, hp.registry]
  exact @Registry.along_attempt R _ _ _ (some p.server) hstack c literal

/-- The calls of a command are linked by reading literals. -/
theorem Ready.linked_calls [IsPreorder Realm R] (hp : p.Ready)
    (hstack : ∀ m n, Along R (Realm.newStack (.make m n))) (c : Config) (sender : Sender)
    (command : Command) (s : Store) :
    Linked .builtins R s (p.calls sender command s) (p.execute c sender command s).2.2 := by
  have henabled := hp.enabled
  simp only [Plugin.execute, calls, henabled, Bool.not_true, Bool.false_and, Bool.false_eq_true,
    if_false]
  cases command with
  | help | reload => exact .nil (refl_of R s.realm)
  | inspect target | methods target start =>
    have hresolve := hp.along_resolve hstack sender target s
    dsimp only
    generalize p.resolve sender target s = found at hresolve
    rcases found with ⟨fault | o, t⟩ <;> exact .nil hresolve
  | chain target tokens =>
    have hresolve := hp.along_resolve hstack sender target s
    dsimp only
    generalize p.resolve sender target s = found at hresolve
    obtain ⟨fault | o, t⟩ := found
    · exact .nil hresolve
    · have hwalk := @Engine.linked_calls R _ (p.engine sender) (some p.server) hp.registry hstack
        tokens (some o) t
      exact hwalk.trans_left hresolve

theorem exists_mem_methods_of_mem_calls {sender : Sender} {command : Command} {s : Store} :
    ∀ k ∈ p.calls sender command s, ∃ b : Builtin, k.method ∈ b.methods := by
  unfold calls
  split
  · split
    · simp
    · exact Engine.exists_mem_methods_of_mem_calls rfl
  · simp

/-! ### One command after another -/

/-- The stores that commands lead through: where each of them starts, where each of its calls leads,
    and where the last command ends. -/
def states (c : Config) (p : Plugin) : List (Sender × Command) → Store → List Store
  | [], s => [s]
  | (sender, command) :: rest, s =>
    s :: (p.calls sender command s).map (fun k => (k.result .builtins).2) ++
      states c (p.execute c sender command s).2.1 rest (p.execute c sender command s).2.2

/-- The calls that commands make. -/
def allCalls (c : Config) (p : Plugin) : List (Sender × Command) → Store → List Call
  | [], _ => []
  | (sender, command) :: rest, s =>
    p.calls sender command s ++
      allCalls c (p.execute c sender command s).2.1 rest (p.execute c sender command s).2.2

section

variable [IsPreorder Realm R] {I G : Realm → Prop} {Bad : Call → Prop}

/-- What is kept between calls and by all of them holds all along. -/
theorem Ready.invariant_states (hp : p.Ready)
    (hstack : ∀ m n, Along R (Realm.newStack (.make m n))) (hR : ∀ a b, R a b → I a → I b)
    (hcall : ∀ k : Call, (∃ b : Builtin, k.method ∈ b.methods) → I k.store.realm →
      I (k.result .builtins).2.realm)
    (c : Config) (commands : List (Sender × Command)) {s : Store} (hs : I s.realm) :
    ∀ t ∈ p.states c commands s, I t.realm := by
  induction commands generalizing p s with
  | nil => exact List.forall_mem_singleton.2 hs
  | cons first rest ih =>
    obtain ⟨sender, command⟩ := first
    obtain ⟨hend, hresults⟩ := (hp.linked_calls hstack c sender command s).invariant hR
      (fun k hk => hcall k (exists_mem_methods_of_mem_calls k hk)) hs
    rw [states, List.cons_append, List.forall_mem_cons, List.forall_mem_append]
    refine ⟨hs, List.forall_mem_map.2 hresults, ?_⟩
    exact ih (hp.execute c sender command s).1 hend

/-- What is kept between calls holds all along exactly if no call spoils it. -/
theorem Ready.good_states_iff (hp : p.Ready)
    (hstack : ∀ m n, Along R (Realm.newStack (.make m n)))
    (hR : ∀ a b, R a b → I a → I b ∧ (G a → G b))
    (hcall : ∀ k : Call, (∃ b : Builtin, k.method ∈ b.methods) → I k.store.realm →
      I (k.result .builtins).2.realm ∧
        (G k.store.realm → (G (k.result .builtins).2.realm ↔ ¬Bad k)))
    (c : Config) (commands : List (Sender × Command)) {s : Store} (hs : I s.realm)
    (hgood : G s.realm) :
    (∀ t ∈ p.states c commands s, G t.realm) ↔ ∀ k ∈ p.allCalls c commands s, ¬Bad k := by
  induction commands generalizing p s with
  | nil => simpa [states, allCalls] using hgood
  | cons first rest ih =>
    obtain ⟨sender, command⟩ := first
    have hlinked := hp.linked_calls hstack c sender command s
    have hcall' (k) (hk : k ∈ p.calls sender command s) :=
      hcall k (exists_mem_methods_of_mem_calls k hk)
    have hend := (hlinked.invariant (fun a b hab ha => (hR a b hab ha).1)
      (fun k hk hs => (hcall' k hk hs).1) hs).1
    obtain ⟨hiff, hgoodend⟩ := hlinked.good_iff hR hcall' hs hgood
    have ih := ih (hp.execute c sender command s).1 hend
    rw [states, allCalls, List.cons_append, List.forall_mem_cons, List.forall_mem_append,
      List.forall_mem_append, List.forall_mem_map, and_iff_right hgood, hiff]
    exact and_congr_right fun hall => ih (hgoodend hall)

end

end Plugin

end Chainwalk
