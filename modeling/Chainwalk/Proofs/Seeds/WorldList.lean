import Chainwalk.Proofs.Seeds.Session

/-!
# The text of the list of worlds

A server gives the list of its worlds to whoever asks, and a list gives its text. Both methods
are exported, and the text describes the worlds, seeds included. So who may call exported
methods only learns all the seeds of a server by one command.

* `Plugin.run_getWorlds_toString`: what becomes of the chain;
* `Session.replay_textOfWorlds`: what the command prints;
* `Session.replay_textOfWorlds_disguised_iff`: it is the same in disguise exactly if all the
  worlds of the server are.
-/

namespace Chainwalk

open Engine

variable {f : Disguise}

/-! ## The two calls -/

/-- The list of the worlds of a server. -/
def Server.worldList (s : Server) (tag : Nat) : Object :=
  .list tag (s.worlds.map fun r => some (.world r))

/-- The text of the list tells of all the worlds. -/
theorem Server.told_worldList (s : Server) (tag : Nat) (realm : Realm) :
    (s.worldList tag).told realm = s.worlds := by
  rw [worldList, Object.told]
  induction s.worlds with
  | nil => rfl
  | cons r rs ih =>
    rw [List.map_cons, Object.shownByAll, ih]
    rfl

namespace Method

/-- The method by which a server gives its worlds. -/
def getWorlds : Method := serverMethods[4]

theorem run_getWorlds (r : Ref .server) (s : Store) :
    getWorlds.body .builtins (.server r) [] s =
      match s.realm.servers.get? r with
      | some v => (.ok (some (v.worldList s.supply)), { s with supply := s.supply + 1 })
      | none => (.error (.refused .released), s) := by
  have hreceiver : serverReceiver .builtins (.server r) s =
      match s.realm.servers.get? r with
      | some v => (.ok (r, v), s)
      | none => (.error (.refused .released), s) := by
    rw [serverReceiver, bind_apply]
    change (Act.realm (Realm.getServer r) >>= fun v => pure (r, v)) s = _
    rw [bind_apply]
    simp only [Act.realm, Realm.run_getServer]
    cases s.realm.servers.get? r <;> rfl
  change (serverReceiver .builtins (.server r) >>= fun v =>
    Act.newListOf (v.2.worlds.map .world)) s = _
  rw [bind_apply, hreceiver]
  cases s.realm.servers.get? r with
  | none => rfl
  | some v =>
    simp only [Act.newListOf, List.map_map, Server.worldList]
    rfl

end Method

namespace Call

theorem finish_getWorlds (r : Ref .server) (s : Store) :
    finish .builtins ⟨.getWorlds, .server r, [], s⟩ "getWorlds()" =
      match s.realm.servers.get? r with
      | some v => (.ok (some (v.worldList s.supply)), { s with supply := s.supply + 1 })
      | none => (.error (.raised "getWorlds()" (.refused .released)), s) := by
  have hallowed : Method.getWorlds.obstacle? .builtins (.server r) [] = none := by cbv
  rw [finish_eq, hallowed, effect]
  dsimp only
  rw [Method.run_getWorlds]
  cases s.realm.servers.get? r <;> rfl

theorem finish_giveText (tag : Nat) (vs : List Value) (s : Store) :
    finish .builtins ⟨.giveText, .list tag vs, [], s⟩ "toString()" =
      (.ok (some (.value s.supply (.scalar .string ((Object.list tag vs).text .builtins s.realm)))),
        { s with supply := s.supply + 1 }) := by
  have hallowed : Method.giveText.obstacle? .builtins (.list tag vs) [] = none := by cbv
  rw [finish_eq, hallowed]
  rfl

end Call

/-! ## The chain -/

namespace Plugin

variable (p : Plugin)

theorem next_getWorlds (sender : Sender) (r : Ref .server) (rest : List String) (s : Store) :
    (p.engine sender).next "getWorlds()" rest (some (.server r)) s =
      .ok ⟨.getWorlds, .server r, [], s⟩ := by
  have hget : (MethodIndex.build .builtins .server).get? "getWorlds()" = some .getWorlds := by
    cbv
  exact next_eq_ok_iff.2 ⟨rfl, hget, rfl, rfl, AccessPolicy.permits_of_exported rfl⟩

theorem next_giveText (sender : Sender) (tag : Nat) (vs : List Value) (rest : List String)
    (s : Store) :
    (p.engine sender).next "toString()" rest (some (.list tag vs)) s =
      .ok ⟨.giveText, .list tag vs, [], s⟩ := by
  have hget : (MethodIndex.build .builtins .arrayList).get? "toString()" = some .giveText := by
    cbv
  exact next_eq_ok_iff.2 ⟨rfl, hget, rfl, rfl, AccessPolicy.permits_of_exported rfl⟩

/-- The chain from a server to the text of the list of its worlds. -/
theorem run_getWorlds_toString (sender : Sender) (r : Ref .server) (s : Store) :
    ((p.engine sender).run ["getWorlds()", "toString()"] (some (.server r)) s).outcome =
      match s.realm.servers.get? r with
      | some v =>
        .ok (some (.value (s.supply + 1)
          (.scalar .string ((v.worldList s.supply).text .builtins s.realm))))
      | none => .error (.raised "getWorlds()" (.refused .released)) := by
  have hnext := p.next_getWorlds sender r ["toString()"] s
  have hfinish := Call.finish_getWorlds r s
  cases hv : s.realm.servers.get? r with
  | none =>
    rw [hv] at hfinish
    rw [run_of_finish_error hnext hfinish]
  | some v =>
    rw [hv] at hfinish
    rw [run_of_finish_ok hnext hfinish]
    change ((p.engine sender).run ["toString()"] (some (v.worldList s.supply)) _).outcome = _
    rw [Server.worldList, run_of_finish_ok (p.next_giveText sender _ _ [] _) (Call.finish_giveText _ _ _)]
    exact congrArg Run.outcome (run_nil _ _ _)

variable {p}

theorem report_of_error {c : Config} {r : Run} {halt : Halt} (hr : r.outcome = .error halt) :
    p.report c r = [halt.kind ++ ": " ++ halt.reason] := by
  rw [report, hr]

/-- What a chain prints that ends in a string. -/
theorem Plain.report_string (hp : p.Plain) {c : Config} (hcut : c.maxOutputChars = 0) {r : Run}
    {tag : Nat} {text : String} (hr : r.outcome = .ok (some (.value tag (.scalar .string text)))) :
    p.report c r = [text] := by
  have houtput : (Registry.ofServer p.server).outputFor? .builtins .string = none := by cbv
  have hformat : p.registry.formatObject .builtins r.store.realm
      (.value tag (.scalar .string text)) = text := by
    rw [hp.registry, Registry.formatObject,
      show (Object.value tag (.scalar .string text)).class_ = .string from rfl, houtput]
    rfl
  rw [report, hr]
  dsimp only
  rw [Registry.format?, Option.map_some, hformat, Option.map_some, Config.truncate, hcut]
  rfl

end Plugin

/-! ## The command -/

/-- The command that asks for the text of the list of the worlds of the server. -/
def ScriptStep.textOfWorlds : ScriptStep := ⟨"chain server getWorlds() toString()", none⟩

namespace Session

variable {s : Session}

/-- What a chain from the server prints, if it is the console itself that gives the command. -/
theorem replay_chain (hs : s.plugin.Plain) (hplayer : s.config.player = none) {line : String}
    {tokens : List String} (hline : Command.parse line = .ok (.chain .server tokens)) :
    s.replay [⟨line, none⟩] =
      s.config.prompt ++ line ++ "\n" ++
        unlines (s.plugin.report s.config
          ((s.plugin.engine .console).run tokens (some (.server s.plugin.server)) s.store)) := by
  have hout : (s.runLine .console line).1 =
      unlines (s.plugin.report s.config
        ((s.plugin.engine .console).run tokens (some (.server s.plugin.server)) s.store)) := by
    unfold runLine
    rw [hline]
    simp only [Plugin.execute, hs.enabled]
    rfl
  have hstep : (s.playStep ⟨line, none⟩).1 =
      s.config.prompt ++ line ++ "\n" ++ (s.runLine .console line).1 := by
    simp only [playStep, Option.none_or, hplayer, senderFor]
  rw [replay, ← hout, ← hstep]
  -- The step stays as it is: to unfold it would be to parse the line.
  generalize s.playStep ⟨line, none⟩ = step
  exact String.append_empty

theorem parse_textOfWorlds :
    Command.parse ScriptStep.textOfWorlds.command =
      .ok (.chain .server ["getWorlds()", "toString()"]) := rfl

/-- What is printed when the text of the list of worlds is asked for. -/
theorem replay_textOfWorlds (hs : s.plugin.Plain) (hcut : s.config.maxOutputChars = 0)
    (hplayer : s.config.player = none) :
    s.replay [.textOfWorlds] =
      s.config.prompt ++ ScriptStep.textOfWorlds.command ++ "\n" ++
        unlines [match s.store.realm.servers.get? s.plugin.server with
          | some v => (v.worldList s.store.supply).text .builtins s.store.realm
          | none =>
            let halt : Halt := .raised "getWorlds()" (.refused .released)
            halt.kind ++ ": " ++ halt.reason] := by
  have hreplay := replay_chain hs hplayer parse_textOfWorlds
  have hrun := s.plugin.run_getWorlds_toString .console s.plugin.server s.store
  cases hv : s.store.realm.servers.get? s.plugin.server with
  | none =>
    rw [hv] at hrun
    rw [Plugin.report_of_error hrun] at hreplay
    exact hreplay
  | some v =>
    rw [hv] at hrun
    rw [hs.report_string hcut hrun] at hreplay
    exact hreplay

theorem unlines_singleton_inj {x y : String} : unlines [x] = unlines [y] ↔ x = y := by
  simp only [unlines, List.map_cons, List.map_nil, String.join_cons, String.join_nil,
    String.append_left_inj]

/-- The same is printed in disguise exactly if all the worlds of the server look the same. -/
theorem replay_textOfWorlds_disguised_iff (hs : s.plugin.Plain) (hcut : s.config.maxOutputChars = 0)
    (hplayer : s.config.player = none) :
    (s.disguised f).replay [.textOfWorlds] = s.replay [.textOfWorlds] ↔
      ∀ r ∈ s.store.realm.worldsOf s.plugin.server, s.store.realm.Keeps f r := by
  have hs' : (s.disguised f).plugin.Plain := hs
  have hservers : (s.disguised f).store.realm.servers = s.store.realm.servers := rfl
  rw [replay_textOfWorlds hs hcut hplayer, replay_textOfWorlds hs' hcut hplayer, hservers,
    show (s.disguised f).plugin = s.plugin from rfl, show (s.disguised f).config = s.config from rfl,
    String.append_right_inj, unlines_singleton_inj, Realm.worldsOf]
  cases s.store.realm.servers.get? s.plugin.server with
  | none =>
    -- A server that is not there has no worlds, and its chain ends with the same fault.
    simp
  | some v =>
    have htext := Object.text_disguised_iff .builtins f s.store.realm (v.worldList s.store.supply)
    rw [Server.told_worldList] at htext
    exact htext

end Session

end Chainwalk
