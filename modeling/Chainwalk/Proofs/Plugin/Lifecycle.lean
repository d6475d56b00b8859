import Chainwalk.Proofs.Chain.Indices
import Chainwalk.Proofs.Realm.Walk

/-!
# The life of a plugin

A plugin is enabled and disabled, its access policy is changed, and it runs commands. Whatever is
done with it, a plugin that is disabled has no handlers and keeps no indices, and runs no commands
but those for help and for reloading; and one that is enabled has the handlers of a plugin that has
been enabled for the first time. All that commands leave behind in a plugin are the classes whose
indices are kept, and these do not matter: so reloading an enabled plugin changes nothing that is
printed or done later.

* `Plugin.Action`, `Plugin.transcript`: what is done with a plugin, and what is printed and done;
* `Plugin.Switched.perform`: what every action keeps;
* `Plugin.transcript_keeping`: the kept indices do not matter;
* `Plugin.lifecycle_after`: the plugin after any actions, and reloading it then.
-/

namespace Chainwalk

namespace Plugin

/-! ## Actions -/

/-- What may be done with a plugin. -/
inductive Action
  | enable
  | disable
  | setAccess (access : AccessPolicy)
  | command (c : Config) (sender : Sender) (command : Command)

/-- The command to reload, as something that is done with a plugin. -/
def Action.reload (c : Config) (sender : Sender) : Action := .command c sender .reload

/-- Does something with a plugin: the lines that are printed, and what becomes of plugin and
    store. -/
def perform (p : Plugin) (s : Store) : Action → List String × Plugin × Store
  | .enable => ([], p.enable, s)
  | .disable => ([], p.disable, s)
  | .setAccess access => ([], { p with access := access }, s)
  | .command c sender command => p.execute c sender command s

/-- The plugin and the store after some actions. -/
def after (p : Plugin) (s : Store) : List Action → Plugin × Store
  | [] => (p, s)
  | a :: rest => after (p.perform s a).2.1 (p.perform s a).2.2 rest

/-- The lines that each action prints, and the store that it leads to. -/
def transcript (p : Plugin) (s : Store) : List Action → List (List String × Store)
  | [] => []
  | a :: rest =>
    ((p.perform s a).1, (p.perform s a).2.2) ::
      transcript (p.perform s a).2.1 (p.perform s a).2.2 rest

variable {p : Plugin} {s : Store}

theorem length_transcript (actions : List Action) :
    (p.transcript s actions).length = actions.length := by
  induction actions generalizing p s with
  | nil => rfl
  | cons a rest ih => rw [transcript, List.length_cons, List.length_cons, ih]

theorem transcript_append (actions rest : List Action) :
    p.transcript s (actions ++ rest) = p.transcript s actions ++
      (p.after s actions).1.transcript (p.after s actions).2 rest := by
  induction actions generalizing p s with
  | nil => rfl
  | cons a actions ih => rw [List.cons_append, transcript, transcript, ih, after, List.cons_append]

/-! ## On and off -/

/-- A plugin of a server, on or off: if it is off nothing is left in it, and if it is on it has the
    handlers of the library. -/
structure Switched (p : Plugin) (server : Ref .server) : Prop where
  server_eq : p.server = server
  off : p.enabled = false → p.registry = .empty ∧ p.consulted = []
  on : p.enabled = true → p.registry = .ofServer server

variable {server : Ref .server}

theorem switched_make (server : Ref .server) (access : AccessPolicy) :
    (make server access).Switched server :=
  ⟨rfl, fun _ => ⟨rfl, rfl⟩, nofun⟩

theorem Ready.switched (hp : p.Ready) (hserver : p.server = server) : p.Switched server := by
  refine ⟨hserver, fun hoff => ?_, fun _ => hserver ▸ hp.registry⟩
  rw [hp.enabled] at hoff
  cases hoff

theorem Switched.enable (hp : p.Switched server) : p.enable.Switched server := by
  cases henabled : p.enabled with
  | true =>
    have hsame : p.enable = p := if_pos henabled
    rwa [hsame]
  | false =>
    have hready := ready_enable henabled (hp.off henabled).1
    exact hready.switched ((server_enable p).trans hp.server_eq)

theorem Switched.disable (hp : p.Switched server) : p.disable.Switched server := by
  have hserver := (server_disable p).trans hp.server_eq
  cases henabled : p.enabled with
  | true =>
    have hempty : p.disable = { p with registry := .empty, consulted := [], enabled := false } :=
      if_pos henabled
    refine ⟨hserver, fun _ => ?_, fun hon => ?_⟩
    · rw [hempty]
      exact ⟨rfl, rfl⟩
    · rw [hempty] at hon
      cases hon
  | false =>
    have hsame : p.disable = p := if_neg (by simp [henabled])
    rwa [hsame]

/-- While a plugin is off it only gives help, and is reloaded. -/
theorem execute_of_not_enabled (hp : p.enabled = false) {command : Command}
    (hhelp : command ≠ .help) (hreload : command ≠ .reload) (c : Config) (sender : Sender)
    (s : Store) :
    p.execute c sender command s = (["Error: debug plugin is disabled"], p, s) := by
  simp [Plugin.execute, hp, hhelp, hreload]

theorem execute_help (c : Config) (sender : Sender) (s : Store) :
    p.execute c sender .help s = (Command.helpLines, p, s) := by
  simp [Plugin.execute]

theorem execute_reload (c : Config) (sender : Sender) (s : Store) :
    p.execute c sender .reload s = (["Reloaded"], p.disable.enable, s) := by
  simp [Plugin.execute]

theorem Switched.execute (hp : p.Switched server) (c : Config) (sender : Sender)
    (command : Command) (s : Store) : (p.execute c sender command s).2.1.Switched server := by
  cases henabled : p.enabled with
  | true =>
    obtain ⟨hready, hserver⟩ := Ready.execute ⟨henabled, hp.server_eq ▸ hp.on henabled⟩ c sender
      command s
    exact hready.switched (hserver.trans hp.server_eq)
  | false =>
    by_cases hhelp : command = .help
    · rw [hhelp, execute_help]
      exact hp
    by_cases hreload : command = .reload
    · rw [hreload, execute_reload]
      exact hp.disable.enable
    rw [execute_of_not_enabled henabled hhelp hreload]
    exact hp

theorem Switched.perform (hp : p.Switched server) (s : Store) (a : Action) :
    (p.perform s a).2.1.Switched server := by
  cases a with
  | enable => exact hp.enable
  | disable => exact hp.disable
  | setAccess access => exact ⟨hp.server_eq, hp.off, hp.on⟩
  | command c sender command => exact hp.execute c sender command s

theorem Switched.after (hp : p.Switched server) (s : Store) (actions : List Action) :
    (p.after s actions).1.Switched server := by
  induction actions generalizing p s with
  | nil => exact hp
  | cons a rest ih => exact ih (hp.perform s a) _

/-! ## Kept indices -/

/-- The indices that the plugin keeps. -/
def indices (p : Plugin) : MethodIndex.Kept := MethodIndex.kept .builtins p.consulted

/-- The plugin that keeps the indices of other classes. -/
def keeping (p : Plugin) (classes : List Class) : Plugin := { p with consulted := classes }

theorem enable_keeping (p : Plugin) (classes : List Class) :
    (p.keeping classes).enable = p.enable.keeping classes := by
  by_cases hon : p.enabled <;> simp [Plugin.enable, keeping, hon]

/-- Of a plugin that is disabled nothing is kept, if anything was. -/
theorem disable_keeping (p : Plugin) (classes : List Class) :
    ∃ more, (p.keeping classes).disable = p.disable.keeping more := by
  rw [Plugin.disable, Plugin.disable, show (p.keeping classes).enabled = p.enabled from rfl]
  split
  · exact ⟨[], rfl⟩
  · exact ⟨classes, rfl⟩

theorem resolve_keeping (p : Plugin) (classes : List Class) (sender : Sender) (target : Target)
    (s : Store) : (p.keeping classes).resolve sender target s = p.resolve sender target s := by
  cases target <;> rfl

/-- The kept indices do not matter for what a command prints and does. -/
theorem execute_keeping (p : Plugin) (classes : List Class) (c : Config) (sender : Sender)
    (command : Command) (s : Store) :
    ∃ more, (p.keeping classes).execute c sender command s =
      ((p.execute c sender command s).1, (p.execute c sender command s).2.1.keeping more,
        (p.execute c sender command s).2.2) := by
  by_cases hhelp : command = .help
  · rw [hhelp, execute_help, execute_help]
    exact ⟨classes, rfl⟩
  by_cases hreload : command = .reload
  · rw [hreload, execute_reload, execute_reload]
    obtain ⟨more, hmore⟩ := disable_keeping p classes
    exact ⟨more, by rw [hmore, enable_keeping]⟩
  cases henabled : p.enabled with
  | false =>
    rw [execute_of_not_enabled henabled hhelp hreload,
      execute_of_not_enabled (p := p.keeping classes) henabled hhelp hreload]
    exact ⟨classes, rfl⟩
  | true =>
    have hon : (p.keeping classes).enabled = true := henabled
    simp only [Plugin.execute, henabled, hon, Bool.not_true, Bool.false_and, Bool.false_eq_true,
      if_false]
    cases command with
    | help => exact absurd rfl hhelp
    | reload => exact absurd rfl hreload
    | inspect target =>
      simp only [resolve_keeping]
      rcases p.resolve sender target s with ⟨fault | o, t⟩
      · exact ⟨classes, rfl⟩
      · exact ⟨classes, rfl⟩
    | methods target start =>
      simp only [resolve_keeping]
      rcases p.resolve sender target s with ⟨fault | o, t⟩
      · exact ⟨classes, rfl⟩
      · exact ⟨MethodIndex.known classes [o.class_], rfl⟩
    | chain target tokens =>
      simp only [resolve_keeping]
      rcases p.resolve sender target s with ⟨fault | o, t⟩
      · exact ⟨classes, rfl⟩
      · exact ⟨MethodIndex.known classes ((p.engine sender).run tokens (some o) t).consulted, rfl⟩

theorem perform_keeping (p : Plugin) (classes : List Class) (s : Store) (a : Action) :
    ∃ more, (p.keeping classes).perform s a =
      ((p.perform s a).1, (p.perform s a).2.1.keeping more, (p.perform s a).2.2) := by
  cases a with
  | enable => exact ⟨classes, by rw [perform, perform, enable_keeping]⟩
  | disable =>
    obtain ⟨more, hmore⟩ := disable_keeping p classes
    exact ⟨more, by rw [perform, perform, hmore]⟩
  | setAccess access => exact ⟨classes, rfl⟩
  | command c sender command => exact execute_keeping p classes c sender command s

theorem transcript_keeping (p : Plugin) (classes : List Class) (s : Store)
    (actions : List Action) :
    (p.keeping classes).transcript s actions = p.transcript s actions := by
  induction actions generalizing p classes s with
  | nil => rfl
  | cons a rest ih =>
    obtain ⟨more, hmore⟩ := perform_keeping p classes s a
    rw [transcript, transcript, hmore]
    dsimp only
    rw [ih]

/-! ## Reloading -/

/-- Reloading a plugin that is on only drops the indices that it keeps. -/
theorem Switched.reload (hp : p.Switched server) (hon : p.enabled = true) :
    p.disable.enable = p.keeping [] := by
  have hdisable : p.disable = { p with registry := .empty, consulted := [], enabled := false } :=
    if_pos hon
  have hregistry := hp.on hon
  have hplain : ((Registry.empty.withPlain.registerResidents p.server).2) = p.registry := by
    rw [hp.on hon, ← hp.server_eq, Registry.ofServer, Registry.plain]
  rw [hdisable, enable_of_not_enabled rfl]
  dsimp only
  rw [hplain, keeping, ← hon]

/-- Where a plugin is on, reloading it is said, and nothing else is different. -/
theorem Switched.transcript_reload {actions rest : List Action} {c : Config} {sender : Sender}
    (hp : (p.after s actions).1.Switched server) (hon : (p.after s actions).1.enabled = true) :
    p.transcript s (actions ++ .reload c sender :: rest) =
      p.transcript s actions ++ (["Reloaded"], (p.after s actions).2) ::
        (p.after s actions).1.transcript (p.after s actions).2 rest := by
  rw [transcript_append, transcript, Action.reload, Plugin.perform, execute_reload, hp.reload hon,
    transcript_keeping]

/-- What comes of a plugin of a server, whatever is done with it. Off, it has no handlers and keeps
    no indices, and runs no command but those for help and for reloading. On, it has the handlers of
    a registry that was just given the plain ones and those of the residents, so that all classes
    are served alike; and if it is reloaded then, this is printed, and nothing is changed that is
    printed or done later. With the indices that it keeps, methods are listed and chains walked as
    if all of them were built anew. -/
theorem lifecycle_after (server : Ref .server) (access : AccessPolicy) (start : Store)
    (actions : List Action) :
    let first := make server access
    let p := (first.after start actions).1
    let s := (first.after start actions).2
    (p.enabled = false → p.registry = .empty ∧ p.indices = [] ∧
      ∀ c sender command, command ≠ .help → command ≠ .reload →
        p.execute c sender command s = (["Error: debug plugin is disabled"], p, s)) ∧
    (p.enabled = true →
      p.registry = (Registry.empty.withPlain.registerResidents server).2 ∧
      ∀ c sender rest,
        (first.transcript start (actions ++ .reload c sender :: rest))[actions.length]? =
          some (["Reloaded"], s) ∧
        (first.transcript start (actions ++ .reload c sender :: rest)).eraseIdx actions.length =
          first.transcript start (actions ++ rest)) ∧
    (∀ c, MethodIndex.fetch .builtins p.indices c =
      (MethodIndex.build .builtins c, (p.consult [c]).indices)) ∧
    ∀ sender tokens v t,
      let r := (p.engine sender).run tokens v t
      (p.engine sender).walk tokens v t p.indices =
        (r.outcome, r.store, (p.consult r.consulted).indices) := by
  intro first p s
  have hp : p.Switched server := (switched_make server access).after start actions
  refine ⟨fun hoff => ?off, fun hon => ?on, fun c => ?fetched, fun sender tokens v t => ?walked⟩
  case off =>
    obtain ⟨hregistry, hconsulted⟩ := hp.off hoff
    refine ⟨hregistry, by rw [indices, hconsulted]; rfl, fun c sender command hhelp hreload => ?_⟩
    exact execute_of_not_enabled hoff hhelp hreload c sender s
  case on =>
    refine ⟨hp.on hon, fun c sender rest => ?_⟩
    have hlength : (first.transcript start actions).length = actions.length :=
      length_transcript actions
    rw [Switched.transcript_reload hp hon, transcript_append, ← hlength]
    refine ⟨List.getElem?_append_right le_rfl |>.trans ?_, ?_⟩
    · rw [Nat.sub_self]
      rfl
    · rw [List.eraseIdx_append_of_length_le le_rfl, Nat.sub_self]
      rfl
  case fetched => exact MethodIndex.fetch_kept .builtins p.consulted c
  case walked => exact Engine.walk_kept (p.engine sender) tokens v t p.consulted

/-- Off after a round, a plugin does not inspect the server; on again, it counts the handlers that
    are registered first, and may be reloaded before it inspects the server. -/
theorem lifecycle_after_rounds :
    let first := make ⟨0⟩ .trusted
    let inspect := Action.command .default .console (.inspect .server)
    let off := (first.after .empty [.enable, .disable]).1
    let on := (first.after .empty [.enable, .disable, .enable]).1
    (off.enabled = false ∧ off.execute .default .console (.inspect .server) .empty =
      (["Error: debug plugin is disabled"], off, .empty)) ∧
    on.enabled = true ∧ on.registry.counts = (Registry.ofServer ⟨0⟩).counts ∧
    (first.transcript .empty
      [.enable, .disable, .enable, .reload .default .console, inspect]).eraseIdx 3 =
        first.transcript .empty [.enable, .disable, .enable, inspect] := by
  intro first inspect off on
  have hoff := (lifecycle_after ⟨0⟩ .trusted .empty [.enable, .disable]).1 rfl
  have hon := (lifecycle_after ⟨0⟩ .trusted .empty [.enable, .disable, .enable]).2.1 rfl
  refine ⟨⟨rfl, hoff.2.2 _ _ _ (by decide) (by decide)⟩, rfl, ?_, ?_⟩
  · exact congrArg Registry.counts hon.1
  · exact (hon.2 .default .console [inspect]).2

end Plugin

end Chainwalk
