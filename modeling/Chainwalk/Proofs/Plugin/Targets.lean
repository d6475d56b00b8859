import Chainwalk.Proofs.Command.Written
import Chainwalk.Proofs.Method.Signatures
import Chainwalk.Proofs.Plugin.Lifecycle
import Chainwalk.Proofs.Residents.Addressing

/-!
# The commands for a target

There are three commands for a target: one inspects it, one lists its methods and one walks a chain
from it. They look for the target in the same way, so they find the same object, or fail with the
same line; and what one of them tells of the object the others bear out. None of them changes
anything by looking, and but for chains no command ever does.

* `Registry.keepsRealm_attempt`: reading the literal of a target does not change the realm;
* `Plugin.Agree`: how the commands for a target agree;
* `Plugin.commands_agree_after`: whatever was done with a plugin, they do.
-/

namespace Chainwalk

/-! ## Looking for targets -/

namespace Registry

variable {server? : Option (Ref .server)} {s : Ref .server} {h : Hierarchy} {c : Class}
  {i : InputHandler}

/-- A handler that has no part of a literal read keeps the realm, if it does not itself change
    it. -/
theorem along_attempt_of_inputFor? {R : Realm → Realm → Prop} [IsPreorder Realm R]
    (hi : (shipped server?).inputFor? h c = some i) (hasks : i.AsksFor []) (halong : i.Along R)
    (sender : Option Sender) (literal : String) :
    Along (InvImage R Store.realm) ((shipped server?).attempt h sender c literal) := by
  by_cases hnull : literal = nullToken
  · rw [hnull, attempt_nullToken]
    exact .pure none
  · obtain ⟨nested, hread⟩ := shipped_attempt_of_inputFor? hi hnull sender
    let unread (_ : Class) (_ : String) : Act Value := pure none
    rw [hread, hasks h sender literal c nested unread fun _ hd => (List.not_mem_nil hd).elim]
    exact (halong h sender unread literal c fun _ _ => .pure none).adapt _

theorem inputFor?_shipped_block : (shipped (some s)).inputFor? h .block = some (blockInput s) :=
  inputFor?_of_registered? (by cbv)

/-- Literals of targets are read without any change of the realm. -/
theorem keepsRealm_attempt (hc : c ∈ [Class.player, .world, .entity, .block])
    (sender : Option Sender) (literal : String) :
    Along (InvImage Eq Store.realm) ((shipped (some s)).attempt h sender c literal) := by
  simp only [List.mem_cons, List.not_mem_nil, or_false] at hc
  rcases hc with rfl | rfl | rfl | rfl
  · exact along_attempt_of_inputFor? inputFor?_shipped_player (fun _ _ _ _ _ _ _ => rfl)
      (InputHandler.along_playerInput s) sender literal
  · exact along_attempt_of_inputFor? inputFor?_shipped_world (fun _ _ _ _ _ _ _ => rfl)
      (InputHandler.along_worldInput s) sender literal
  · exact along_attempt_of_inputFor? inputFor?_shipped_entity (fun _ _ _ _ _ _ _ => rfl)
      (InputHandler.along_entityInput s) sender literal
  · exact along_attempt_of_inputFor? inputFor?_shipped_block (fun _ _ _ _ _ _ _ => rfl)
      (InputHandler.along_blockInput s) sender literal

end Registry

namespace Plugin

variable {p : Plugin} {c : Config} {sender : Sender} {target : Target} {s t : Store} {o : Object}

/-- Looking for a target does not change the realm. -/
theorem Ready.realm_resolve (hp : p.Ready) (sender : Sender) (target : Target) (s : Store) :
    (p.resolve sender target s).2.realm = s.realm := by
  refine (@along_resolve_of_lookUp Eq p _ sender (fun c hc literal => ?_) target s).symm
  rw [lookUp, hp.registry]
  exact Registry.keepsRealm_attempt hc _ literal

/-! ## Commands for targets -/

/-- A command whose target is not found prints why, and does no more than look. -/
theorem execute_of_resolve_error (hon : p.enabled = true) {fault : CommandFault}
    (ho : p.resolve sender target s = (.error fault, t)) {command : Command}
    (htarget : command.target? = some target) :
    p.execute c sender command s = ([faultLine fault], p, t) := by
  cases command with
  | help | reload => cases htarget
  | inspect t | methods t _ | chain t _ =>
    obtain rfl := Option.some.inj htarget
    simp only [Plugin.execute, hon, Bool.not_true, Bool.false_and, Bool.false_eq_true, if_false]
    rw [ho]

theorem execute_inspect (hon : p.enabled = true) (ho : p.resolve sender target s = (.ok o, t)) :
    p.execute c sender (.inspect target) s =
      ([c.truncate (p.registry.formatObject .builtins t.realm o),
        "class " ++ Hierarchy.builtins.path o.class_], p, t) := by
  simp only [Plugin.execute, hon, Bool.not_true, Bool.false_and, Bool.false_eq_true, if_false]
  rw [ho]

theorem execute_chain (hon : p.enabled = true) (ho : p.resolve sender target s = (.ok o, t))
    (tokens : List String) :
    p.execute c sender (.chain target tokens) s =
      let r := (p.engine sender).run tokens (some o) t
      (p.report c r, p.consult r.consulted, r.store) := by
  simp only [Plugin.execute, hon, Bool.not_true, Bool.false_and, Bool.false_eq_true, if_false]
  rw [ho]

/-- The lines that list signatures, if there are any. -/
def listing (o : Object) (signatures : List String) : List String :=
  if signatures.isEmpty then ["No methods on " ++ Hierarchy.builtins.name o.class_] else signatures

theorem execute_methods (hon : p.enabled = true) (ho : p.resolve sender target s = (.ok o, t))
    (start : Option String) :
    p.execute c sender (.methods target start) s =
      let index := MethodIndex.build .builtins o.class_
      (listing o (start.elim index.signatures index.startingWith), p.consult [o.class_], t) := by
  simp only [Plugin.execute, hon, Bool.not_true, Bool.false_and, Bool.false_eq_true, if_false]
  rw [ho]
  cases start <;> rfl

/-- Every object has methods. -/
theorem listing_signatures (o : Object) :
    listing o (MethodIndex.build .builtins o.class_).signatures =
      (MethodIndex.build .builtins o.class_).signatures := by
  have hmem : Method.signature .builtins (objectMethods.get ⟨0, by decide⟩) ∈
      (MethodIndex.build .builtins o.class_).signatures := by
    rw [MethodIndex.mem_signatures_build_iff]
    exact ⟨.object, Hierarchy.isA_object _ _, _, List.get_mem _ _, rfl⟩
  rw [listing, if_neg]
  rw [List.isEmpty_iff]
  exact List.ne_nil_of_mem hmem

/-! ## Agreement -/

/-- How the commands agree on a target, for which there is an object in the realm. -/
structure Agree (p : Plugin) (c : Config) (sender : Sender) (target : Target) (s : Store)
    (o : Object) (t : Store) : Prop where
  /-- A chain without tokens prints the first line of an inspection. -/
  shown : ∃ line, (p.execute c sender (.chain target []) s).1 = [line] ∧
    (p.execute c sender (.inspect target) s).1 =
      [line, "class " ++ Hierarchy.builtins.path o.class_]
  /-- Signatures are listed in order, and each once. -/
  ordered : (p.execute c sender (.methods target none) s).1.Pairwise (· < ·)
  /-- A chain of one token prints what has come of it. -/
  walked : ∀ token, (p.execute c sender (.chain target [token]) s).1 =
    p.report c ((p.engine sender).run [token] (some o) t)
  /-- What is listed are the tokens that are not unknown. -/
  listed : ∀ token, token ∈ (p.execute c sender (.methods target none) s).1 ↔
    ¬((p.engine sender).run [token] (some o) t).IsUnknown
  /-- If a chain of a token that is listed fails, it says of what kind the failure is, and that is
      another kind. -/
  failed : ∀ token ∈ (p.execute c sender (.methods target none) s).1, ∀ halt,
    ((p.engine sender).run [token] (some o) t).outcome = .error halt →
      ∃ line, (p.execute c sender (.chain target [token]) s).1 = [line] ∧
        (halt.kind ++ ": ").toList <+: line.toList ∧
        ¬"unknown reference: ".toList <+: line.toList
  /-- Of any other token it is said that it is unknown. -/
  unknown : ∀ token, token ∉ (p.execute c sender (.methods target none) s).1 →
    (p.execute c sender (.chain target [token]) s).1 =
      ["unknown reference: unknown method " ++ token ++ " for " ++
        Hierarchy.builtins.name o.class_]
  /-- With a start, the lines are those that begin with it. -/
  started : ∀ start, (p.execute c sender (.methods target (some start)) s).1 =
    let lines := (p.execute c sender (.methods target none) s).1.filter (Text.StartsWith start ·)
    if lines = [] then ["No methods on " ++ Hierarchy.builtins.name o.class_] else lines

/-- What is said of an unknown token. -/
theorem line_unknownMethod (token name : String) :
    Halt.kind (.unknownMethod token name) ++ ": " ++ Halt.reason (.unknownMethod token name) =
      "unknown reference: unknown method " ++ token ++ " for " ++ name := by
  have hwords : "unknown reference" ++ ": " ++ "unknown method " =
      "unknown reference: unknown method " := by decide
  calc Halt.kind (.unknownMethod token name) ++ ": " ++ Halt.reason (.unknownMethod token name)
    _ = "unknown reference" ++ ": " ++ ("unknown method " ++ token ++ " for " ++ name) := rfl
    _ = "unknown reference: unknown method " ++ token ++ " for " ++ name := by
      rw [← hwords]
      simp only [String.append_assoc]

/-- What is said of any other failure begins in another way. -/
theorem not_prefix_line {halt : Halt} (hkind : halt.kind ≠ "unknown reference") :
    ¬"unknown reference: ".toList <+: (halt.kind ++ ": " ++ halt.reason).toList := by
  cases halt with
  | unknownMethod => exact absurd rfl hkind
  | callOnNull | returnedNull | raised | badArgument | tooFewArguments => simp [Halt.kind]

theorem agree_of_resolve (hon : p.enabled = true) (ho : p.resolve sender target s = (.ok o, t)) :
    p.Agree c sender target s o t := by
  have hmethods : (p.execute c sender (.methods target none) s).1 =
      (MethodIndex.build .builtins o.class_).signatures := by
    rw [execute_methods hon ho]
    exact listing_signatures o
  -- What is listed and what is walked comes from the same index, that of the object's class.
  have hunknown (token : String) := Engine.isUnknown_run_singleton_iff (p.engine sender) token o t
  refine ⟨?shown, ?ordered, ?walked, ?listed, ?failed, ?unknown, ?started⟩
  case shown =>
    rw [execute_inspect hon ho, execute_chain hon ho, Engine.run_nil]
    exact ⟨_, rfl, rfl⟩
  case ordered =>
    rw [hmethods]
    exact MethodIndex.pairwise_signatures_build .builtins o.class_
  case walked =>
    intro token
    rw [execute_chain hon ho]
  case listed =>
    intro token
    rw [hmethods, hunknown, not_not]
    rfl
  case failed =>
    intro token htoken halt hout
    have hkind : halt.kind ≠ "unknown reference" := fun hkind =>
      (hunknown token).1 ⟨halt, hout, hkind⟩ (hmethods ▸ htoken)
    have hline : (p.execute c sender (.chain target [token]) s).1 =
        [halt.kind ++ ": " ++ halt.reason] := by
      rw [execute_chain hon ho]
      dsimp only
      rw [report, hout]
    refine ⟨_, hline, ?_, not_prefix_line hkind⟩
    rw [@String.toList_append (halt.kind ++ ": ") halt.reason]
    exact List.prefix_append _ _
  case unknown =>
    intro token htoken
    rw [hmethods, ← MethodIndex.isSome_get?_iff, Option.not_isSome_iff_eq_none] at htoken
    have hout := Engine.run_singleton_of_get?_eq_none (p.engine sender) token o t htoken
    rw [execute_chain hon ho]
    dsimp only
    rw [report, hout]
    exact congrArg (fun line => [line]) (line_unknownMethod token _)
  case started =>
    intro start
    rw [hmethods, execute_methods hon ho, ← MethodIndex.startingWith_eq_filter]
    simp only [listing, Option.elim_some, List.isEmpty_iff]

/-! ## Commands that only look -/

/-- But for chains, no command changes the realm. -/
theorem Switched.realm_execute {server : Ref .server} (hp : p.Switched server) (c : Config)
    (sender : Sender) {command : Command} (hchain : ∀ target tokens, command ≠ .chain target tokens)
    (s : Store) : (p.execute c sender command s).2.2.realm = s.realm := by
  by_cases hhelp : command = .help
  · rw [hhelp, execute_help]
  by_cases hreload : command = .reload
  · rw [hreload, execute_reload]
  cases hon : p.enabled with
  | false => rw [execute_of_not_enabled hon hhelp hreload]
  | true =>
    have hready : p.Ready := ⟨hon, hp.server_eq ▸ hp.on hon⟩
    -- It is enough that a command leaves the store as it was after looking for the target.
    have hresolve {target : Target} (htarget : command.target? = some target)
        (hok : ∀ o t, p.resolve sender target s = (.ok o, t) →
          (p.execute c sender command s).2.2 = t) :
        (p.execute c sender command s).2.2.realm = s.realm := by
      have hlook := hready.realm_resolve sender target s
      rcases ho : p.resolve sender target s with ⟨fault | o, t⟩
      · rw [execute_of_resolve_error hon ho htarget, ← hlook, ho]
      · rw [hok o t ho, ← hlook, ho]
    cases command with
    | help => exact absurd rfl hhelp
    | reload => exact absurd rfl hreload
    | chain target tokens => exact absurd rfl (hchain target tokens)
    | inspect target => exact hresolve rfl fun o t ho => by rw [execute_inspect hon ho]
    | methods target start => exact hresolve rfl fun o t ho => by rw [execute_methods hon ho]

/-- Whatever was done with a plugin, the commands for a target agree: they all print the same line
    that says why there is no object for it, and only look, or there is one, and they agree on it.
    And commands for help, for reloading, for a list of methods and for an inspection leave the
    server as it is, and the plugin with it. -/
theorem commands_agree_after (server : Ref .server) (access : AccessPolicy) (start : Store)
    (actions : List Action) (c : Config) (sender : Sender) (s : Store) :
    let p := ((make server access).after start actions).1
    (p.enabled = true → ∀ target,
      (∃ fault t, t.realm = s.realm ∧ ∀ command : Command, command.target? = some target →
        p.execute c sender command s = ([faultLine fault], p, t)) ∨
      ∃ o t, p.resolve sender target s = (.ok o, t) ∧ p.Agree c sender target s o t) ∧
    ∀ command : Command, (∀ target tokens, command ≠ .chain target tokens) →
      (p.execute c sender command s).2.2.realm = s.realm ∧
      (p.execute c sender command s).2.1.server = server := by
  intro p
  have hp : p.Switched server := (switched_make server access).after start actions
  refine ⟨fun hon target => ?_, fun command hchain => ?_⟩
  · rcases ho : p.resolve sender target s with ⟨fault | o, t⟩
    · have hready : p.Ready := ⟨hon, hp.server_eq ▸ hp.on hon⟩
      have hlook : t.realm = s.realm := by rw [← hready.realm_resolve sender target s, ho]
      exact .inl ⟨fault, t, hlook, fun command => execute_of_resolve_error hon ho⟩
    · exact .inr ⟨o, t, rfl, agree_of_resolve hon ho⟩
  · exact ⟨hp.realm_execute c sender hchain s, (hp.execute c sender command s).server_eq⟩

/-- Once a plugin is on, the commands agree on its server, whoever is at the console. -/
theorem commands_agree_after_enabled :
    let p := ((make ⟨0⟩ .trusted).after .empty [.enable]).1
    p.enabled = true ∧ p.Agree .default .console .server .empty (.server ⟨0⟩) .empty := by
  intro p
  have hresolve : p.resolve .console .server .empty = (.ok (.server ⟨0⟩), .empty) := rfl
  obtain ⟨hagree, -⟩ := commands_agree_after ⟨0⟩ .trusted .empty [.enable] .default .console .empty
  rcases hagree rfl .server with ⟨fault, t, -, hfault⟩ | ⟨o, t, hfound, hagree⟩
  · -- An inspection prints two lines.
    have hinspect := hfault (.inspect .server) rfl
    rw [execute_inspect rfl hresolve] at hinspect
    cases congrArg (fun r => r.1.length) hinspect
  · obtain ⟨ho, rfl⟩ := Prod.mk.inj (hresolve.symm.trans hfound)
    obtain rfl := Except.ok.inj ho
    exact ⟨rfl, hagree⟩

end Plugin

end Chainwalk
