import Chainwalk.Console.Basic
import Chainwalk.Proofs.Seeds.Loading
import Chainwalk.Proofs.Seeds.Walk

/-!
# Sessions in disguise

A plugin through which only exported methods may be called reads and writes without regard to
disguises. So two sessions over a server and over the same server in disguise make the same calls
and print the same, up to the first call that gives the text of a list in which a world is
described that looks different, or a hash code that is another one.

* `Session.calls`: the calls that are made in a session;
* `Session.inStep_calls`: sessions go in step;
* `Session.replay_disguised`: as long as no call tells of the disguise, the same is printed.
-/

namespace Chainwalk

variable {f : Disguise}

namespace Plugin

/-! ## Commands -/

/-- The calls that a command makes. -/
def calls (p : Plugin) (sender : Sender) (command : Command) (s : Store) : List Call :=
  match p.enabled, command with
  | true, .chain target tokens =>
    match p.resolve sender target s with
    | (.error _, _) => []
    | (.ok o, s) => (p.engine sender).calls tokens (some o) s
  | _, _ => []

/-- The plugin as it is when it has been enabled, with exported methods only to be called. -/
structure Plain (p : Plugin) : Prop where
  enabled : p.enabled = true
  access : p.access = .exportedOnly
  registry : p.registry = .ofServer p.server

variable {p : Plugin}

theorem enable_of_not_enabled (hp : p.enabled = false) :
    p.enable =
      { p with
        registry := (p.registry.withPlain.registerResidents p.server).2
        enabled := true } := by
  rw [enable, hp]
  rfl

/-- A plugin without handlers that is not enabled yet. -/
theorem plain_enable (hp : p.enabled = false) (hr : p.registry = .empty)
    (ha : p.access = .exportedOnly) : p.enable.Plain := by
  rw [enable_of_not_enabled hp, hr]
  refine ⟨rfl, ha, ?_⟩
  rw [Registry.ofServer, Registry.plain]

theorem plain_make_enable (server : Ref .server) : (make server .exportedOnly).enable.Plain :=
  plain_enable rfl rfl rfl

theorem Plain.reload (hp : p.Plain) : p.disable.enable.Plain := by
  have hdisable : p.disable = { p with registry := .empty, consulted := [], enabled := false } := by
    rw [disable, hp.enabled]
    rfl
  rw [hdisable]
  exact plain_enable rfl rfl hp.access

theorem Plain.consult (hp : p.Plain) (classes : List Class) : (p.consult classes).Plain :=
  ⟨hp.enabled, hp.access, hp.registry⟩

theorem Plain.blind_inputs (hp : p.Plain) :
    ∀ i ∈ p.registry.inputs, i.Blind (Store.disguised f) := by
  rw [hp.registry]
  intro i hi
  exact Registry.blind_of_mem_handlers_ofServer (k := .input i)
    (List.mem_append_left _ (List.mem_map_of_mem hi))

theorem Plain.discreet (hp : p.Plain) (sender : Sender) : (p.engine sender).Discreet f :=
  ⟨rfl, hp.access, hp.blind_inputs⟩

theorem Plain.formatObject_disguised (hp : p.Plain) (realm : Realm) (o : Object) :
    p.registry.formatObject .builtins (realm.disguised f) o =
      p.registry.formatObject .builtins realm o := by
  rw [hp.registry]
  refine Registry.formatObject_disguised (fun i hi => ?_)
    (Registry.outputFor?_ofServer_arrayList _) realm o
  exact Registry.blind_of_mem_handlers_ofServer (k := .output i)
    (List.mem_append_right _ (List.mem_map_of_mem hi))

theorem Plain.blind_lookUpTarget (hp : p.Plain) (sender : Sender) (target : Target) :
    Blind (Store.disguised f) (p.lookUpTarget sender target) := by
  cases target with
  | sender => exact .pure _
  | server => exact .pure _
  | player name | world name | entity name | block name =>
    exact Registry.blind_attempt hp.blind_inputs _ name

theorem Plain.resolve_disguised (hp : p.Plain) (sender : Sender) (target : Target) (s : Store) :
    p.resolve sender target (s.disguised f) =
      ((p.resolve sender target s).1, (p.resolve sender target s).2.disguised f) := by
  rw [resolve, resolve, hp.blind_lookUpTarget sender target s]
  rcases p.lookUpTarget sender target s with ⟨fault | _ | o, t⟩ <;> rfl

/-- What a chain prints is the same in disguise. -/
theorem Plain.report_disguised (hp : p.Plain) (c : Config) (r : Run) :
    p.report c { r with store := r.store.disguised f } = p.report c r := by
  obtain ⟨outcome, store, consulted⟩ := r
  cases outcome with
  | error halt => rfl
  | ok v =>
    cases v with
    | none => rfl
    | some o =>
      simp only [report, Registry.format?, Option.map_some]
      rw [← hp.formatObject_disguised (f := f) store.realm o]
      rfl

/-- A command of quiet calls prints the same in disguise, and leaves the same, in disguise. -/
theorem Plain.execute_disguised (hp : p.Plain) (c : Config) (sender : Sender) (command : Command)
    (s : Store) (hq : ∀ k ∈ p.calls sender command s, k.Quiet f) :
    p.execute c sender command (s.disguised f) =
      let (lines, q, t) := p.execute c sender command s
      (lines, q, t.disguised f) := by
  have henabled := hp.enabled
  simp only [execute, henabled, Bool.not_true, Bool.false_and, Bool.false_eq_true, if_false]
  cases command with
  | help => rfl
  | reload => rfl
  | inspect target =>
    simp only [hp.resolve_disguised]
    rcases p.resolve sender target s with ⟨fault | o, t⟩
    · rfl
    · simp only [show (t.disguised f).realm = t.realm.disguised f from rfl,
        hp.formatObject_disguised]
  | methods target start =>
    simp only [hp.resolve_disguised]
    rcases p.resolve sender target s with ⟨fault | o, t⟩ <;> rfl
  | chain target tokens =>
    simp only [calls, henabled] at hq
    simp only [hp.resolve_disguised]
    rcases hr : p.resolve sender target s with ⟨fault | o, t⟩
    · rfl
    · rw [hr] at hq
      simp only [Engine.run_disguised (hp.discreet sender) tokens (some o) t hq,
        hp.report_disguised]

theorem Plain.inStep_calls (hp : p.Plain) (sender : Sender) (command : Command) (s : Store) :
    InStep f (p.calls sender command s) (p.calls sender command (s.disguised f)) := by
  simp only [calls, hp.enabled]
  cases command with
  | help | reload | inspect | methods => exact .nil
  | chain target tokens =>
    simp only [hp.resolve_disguised]
    rcases p.resolve sender target s with ⟨fault | o, t⟩
    · exact .nil
    · exact Engine.inStep_calls (hp.discreet sender) tokens (some o) t

theorem Plain.execute (hp : p.Plain) (c : Config) (sender : Sender) (command : Command)
    (s : Store) : (p.execute c sender command s).2.1.Plain := by
  have henabled := hp.enabled
  simp only [Plugin.execute, henabled, Bool.not_true, Bool.false_and, Bool.false_eq_true,
    if_false]
  cases command with
  | help => exact hp
  | reload => exact hp.reload
  | inspect target =>
    dsimp only
    split <;> exact hp
  | methods target start =>
    dsimp only
    split
    · exact hp
    · exact hp.consult _
  | chain target tokens =>
    dsimp only
    split
    · exact hp
    · exact hp.consult _

end Plugin

/-! ## Sessions -/

namespace Session

/-- The session on its server in disguise. -/
def disguised (f : Disguise) (s : Session) : Session :=
  { s with store := s.store.disguised f }

/-- The calls that are made by the command in a line. -/
def lineCalls (s : Session) (sender : Sender) (line : String) : List Call :=
  match Command.parse line with
  | .error _ => []
  | .ok command => s.plugin.calls sender command s.store

/-- The calls that are made in a step of a script. -/
def stepCalls (s : Session) (step : ScriptStep) : List Call :=
  match senderFor s.store.realm s.plugin.server (step.player.or s.config.player) with
  | .error _ => []
  | .ok sender => s.lineCalls sender step.command

/-- The calls that are made in a session. -/
def calls (s : Session) : List ScriptStep → List Call
  | [] => []
  | step :: steps => s.stepCalls step ++ (s.playStep step).2.calls steps

variable {s : Session}

/-! ### Lines -/

theorem inStep_lineCalls (hs : s.plugin.Plain) (sender : Sender) (line : String) :
    InStep f (s.lineCalls sender line) ((s.disguised f).lineCalls sender line) := by
  unfold lineCalls
  cases Command.parse line with
  | error fault => exact .nil
  | ok command => exact hs.inStep_calls sender command s.store

theorem plain_runLine (hs : s.plugin.Plain) (sender : Sender) (line : String) :
    (s.runLine sender line).2.plugin.Plain := by
  unfold runLine
  cases Command.parse line with
  | error fault => exact hs
  | ok command => exact hs.execute s.config sender command s.store

/-- A line of quiet calls prints the same in disguise. -/
theorem runLine_disguised (hs : s.plugin.Plain) (sender : Sender) (line : String)
    (hq : ∀ k ∈ s.lineCalls sender line, k.Quiet f) :
    (s.disguised f).runLine sender line =
      ((s.runLine sender line).1, (s.runLine sender line).2.disguised f) := by
  unfold lineCalls at hq
  unfold runLine
  cases hc : Command.parse line with
  | error fault => rfl
  | ok command =>
    rw [hc] at hq
    have hexecute := hs.execute_disguised s.config sender command s.store hq
    simp only [disguised, hexecute]

/-! ### Steps -/

/-- The same sender gives the command of a step. -/
theorem senderFor_disguised (realm : Realm) (server : Ref .server) (name : Option String) :
    senderFor (realm.disguised f) server name = senderFor realm server name := by
  cases name <;> rfl

theorem senderFor_store_disguised (name : Option String) :
    senderFor (s.disguised f).store.realm (s.disguised f).plugin.server name =
      senderFor s.store.realm s.plugin.server name :=
  senderFor_disguised s.store.realm s.plugin.server name

theorem inStep_stepCalls (hs : s.plugin.Plain) (step : ScriptStep) :
    InStep f (s.stepCalls step) ((s.disguised f).stepCalls step) := by
  rw [stepCalls, stepCalls, senderFor_store_disguised,
    show (s.disguised f).config = s.config from rfl]
  cases senderFor s.store.realm s.plugin.server (step.player.or s.config.player) with
  | error fault => exact .nil
  | ok sender => exact inStep_lineCalls hs sender step.command

theorem plain_playStep (hs : s.plugin.Plain) (step : ScriptStep) :
    (s.playStep step).2.plugin.Plain := by
  rw [playStep]
  cases senderFor s.store.realm s.plugin.server (step.player.or s.config.player) with
  | error fault => exact hs
  | ok sender =>
    have hline := plain_runLine hs sender step.command
    dsimp only
    -- The line stays as it is: to unfold it would be to parse it.
    generalize s.runLine sender step.command = line at hline ⊢
    exact hline

/-- A step of quiet calls prints the same in disguise. -/
theorem playStep_disguised (hs : s.plugin.Plain) (step : ScriptStep)
    (hq : ∀ k ∈ s.stepCalls step, k.Quiet f) :
    (s.disguised f).playStep step = ((s.playStep step).1, (s.playStep step).2.disguised f) := by
  rw [stepCalls] at hq
  rw [playStep, playStep, senderFor_store_disguised,
    show (s.disguised f).config = s.config from rfl]
  cases hsender : senderFor s.store.realm s.plugin.server (step.player.or s.config.player) with
  | error fault => rfl
  | ok sender =>
    rw [hsender] at hq
    dsimp only
    rw [runLine_disguised hs sender step.command hq]

/-! ### Scripts -/

/-- Sessions go in step. -/
theorem inStep_calls (hs : s.plugin.Plain) (steps : List ScriptStep) :
    InStep f (s.calls steps) ((s.disguised f).calls steps) := by
  induction steps generalizing s with
  | nil => exact .nil
  | cons step steps ih =>
    refine (inStep_stepCalls hs step).append fun hq => ?_
    rw [playStep_disguised hs step hq]
    exact ih (plain_playStep hs step)

/-- A session of quiet calls prints the same in disguise. -/
theorem replay_disguised (hs : s.plugin.Plain) (steps : List ScriptStep)
    (hq : ∀ k ∈ s.calls steps, k.Quiet f) : (s.disguised f).replay steps = s.replay steps := by
  induction steps generalizing s with
  | nil => rfl
  | cons step steps ih =>
    rw [calls, List.forall_mem_append] at hq
    have hrest := ih (plain_playStep hs step) hq.2
    rw [replay, replay, playStep_disguised hs step hq.1]
    dsimp only
    rw [hrest]

end Session

end Chainwalk
