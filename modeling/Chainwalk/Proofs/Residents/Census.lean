import Chainwalk.Proofs.Object.Shown
import Chainwalk.Proofs.Realm.Walk
import Chainwalk.Proofs.Residents.Peopled
import Chainwalk.Proofs.Typing.Walk

/-!
# Who is listed where

A world lists its players by looking for them, and its mobs by keeping a list of those that have
been spawned in it. So players are always listed where they stand, and no one is ever listed twice.
But a mob that is moved to another world remains in the list of the first one: it is listed where it
no longer stands, and not where it stands. This is the only way in which the lists come to be wrong.

* `Realm.entitiesOf`: whom a world lists, which is what its method answers (`run_getEntities`);
* `Realm.ListsOnce`, `Realm.ListsExactly`: what is always right of the lists, and when they all are;
* `Call.Strays`: a mob is moved to another world than the one that lists it;
* `Plugin.listsExactly_states_iff`: the lists are right all along exactly if no mob is.
-/

namespace Chainwalk

/-! ## Moving an entity -/

namespace Realm

theorem run_teleport (e : EntityRef) (l : Location) (realm : Realm) :
    teleport e l realm =
      match realm.entity? e with
      | some x =>
        if (realm.worlds.get? l.world).isSome then
          (.ok true, (modifyEntity e (fun _ => { x with location := l }) realm).2)
        else (.ok false, realm)
      | none => (.error .released, realm) := by
  change (getEntity e >>= fun x => match realm.moved? x l with
    | some base => do
      modifyEntity e fun _ => base
      return true
    | none => return false : RealmM Bool) realm = _
  rw [bind_apply, run_getEntity]
  rcases realm.entity? e with _ | x
  · rfl
  · simp only [moved?]
    rcases realm.worlds.get? l.world with _ | w <;> rfl

/-- All mobs are still at home unless one is moved to another world than the one that lists it. -/
theorem settled_teleport {realm : Realm} {s : Ref .server} (h : realm.Peopled s) (e : EntityRef)
    (l : Location) :
    (teleport e l realm).2.Peopled s ∧
      (realm.AtHome → ((teleport e l realm).2.AtHome ↔
        ¬∃ m r, e = .mob m ∧ m ∈ realm.mobsOf r ∧ (realm.worlds.get? l.world).isSome ∧
          l.world ≠ r)) := by
  rw [run_teleport]
  rcases hx : realm.entity? e with _ | x
  case none =>
    refine ⟨h, fun hhome => iff_of_true hhome ?_⟩
    rintro ⟨m, r, rfl, hm, -⟩
    have := h.mobs r m hm
    rw [hx] at this
    contradiction
  case some =>
    dsimp only
    split
    case isTrue hworld =>
      refine ⟨h.modifyEntity e fun _ => { x with location := l }, fun hhome => ?_⟩
      refine (AtHome.modifyEntity_iff (f := fun _ => { x with location := l }) hhome hx).trans ?_
      simp only [hworld, true_and]
    case isFalse hworld =>
      refine ⟨h, fun hhome => iff_of_true hhome ?_⟩
      rintro ⟨m, r, -, -, hthere, -⟩
      exact hworld hthere

end Realm

theorem Object.isA_ofEntity (h : Hierarchy) (e : EntityRef) :
    h.isA (ofEntity e).class_ .entity := by
  cases e <;> exact h.isA_builtins_iff.2 (by decide)

namespace Method

variable (h : Hierarchy) (s : Store)

theorem body_teleport (recv : Object) (args : List Value) :
    teleport.body h recv args s = (do
      let place ← Act.ofExcept (argument Location h args 0 .location)
      let (e, _) ← entityReceiver h recv
      Act.scalar .boolean (← Act.realm (Realm.teleport e place)) : Act Value) s := rfl

theorem run_entityReceiver (e : EntityRef) :
    entityReceiver h (.ofEntity e) s =
      match s.realm.entity? e with
      | some x => (.ok (e, x), s)
      | none => (.error (.refused .released), s) := by
  have hrecv : receiver EntityRef h (.ofEntity e) .entity = .ok e :=
    receiver_eq_ok_iff.2 (Object.shows?_entity_iff.2 rfl)
  simp only [entityReceiver, bind_apply, Act.ofExcept, hrecv, Act.realm, Realm.run_getEntity]
  rcases s.realm.entity? e with _ | x <;> rfl

theorem snd_invoke_teleport (e : EntityRef) (tag : Nat) (l : Location) :
    (teleport.invoke .builtins (.ofEntity e) [some (.value tag (.location l))] s).2.realm =
      (Realm.teleport e l s.realm).2 := by
  have hplace : argument Location .builtins [some (.value tag (.location l))] 0 .location = .ok l :=
    argument_eq_ok_iff.2 ⟨_, rfl, rfl⟩
  rw [snd_invoke, if_pos, body_teleport]
  · simp only [bind_apply, Act.ofExcept, hplace, run_entityReceiver]
    rcases hx : s.realm.entity? e with _ | x
    · rw [Realm.run_teleport, hx]
    · simp only [Act.realm]
      rcases Realm.teleport e l s.realm with ⟨refusal | b, realm⟩ <;> rfl
  · exact obstacle?_eq_none_iff.2 ⟨Object.isA_ofEntity .builtins e,
      .cons (Hierarchy.builtins.fits_some.2 (Hierarchy.builtins.isA_self _)) .nil⟩

/-- Only entities are moved, and only to locations. -/
theorem snd_invoke_teleport_of_ne {recv : Object} {args : List Value}
    (hne : ¬∃ e tag l, recv = .ofEntity e ∧ args = [some (.value tag (.location l))]) :
    (teleport.invoke h recv args s).2 = s := by
  rw [snd_invoke]
  split
  case isFalse => rfl
  case isTrue ho =>
    obtain ⟨v, rfl⟩ := List.length_eq_one_iff.1 (obstacle?_eq_none_iff.1 ho).2.length_eq.symm
    simp only [body_teleport, bind_apply, entityReceiver, Act.ofExcept]
    rcases hl : argument Location h [v] 0 .location with fault | l
    · rfl
    · rcases hr : receiver EntityRef h recv .entity with fault | e
      · rfl
      · obtain ⟨o, hv, hl⟩ := argument_eq_ok_iff.1 hl
        obtain ⟨tag, rfl⟩ := Object.shows?_location_iff.1 hl
        obtain rfl := Object.shows?_entity_iff.1 (receiver_eq_ok_iff.1 hr)
        obtain rfl := Option.some.inj hv
        exact absurd ⟨e, tag, l, rfl, rfl⟩ hne

end Method

namespace Call

variable {s : Ref .server} {k : Call}

/-- The call moves a mob from the world that lists it to another one. -/
def Strays (k : Call) : Prop :=
  ∃ m tag l r, k.method = .teleport ∧ k.receiver = .mob m ∧
    k.args = [some (.value tag (.location l))] ∧ m ∈ k.store.realm.mobsOf r ∧
    (k.store.realm.worlds.get? l.world).isSome ∧ l.world ≠ r

theorem strays_teleport_iff {e : EntityRef} {tag : Nat} {l : Location} {t : Store} :
    Strays ⟨.teleport, .ofEntity e, [some (.value tag (.location l))], t⟩ ↔
      ∃ m r, e = .mob m ∧ m ∈ t.realm.mobsOf r ∧ (t.realm.worlds.get? l.world).isSome ∧
        l.world ≠ r := by
  constructor
  · rintro ⟨m, tag', l', r, -, hrecv, hargs, hmob, hworld, hne⟩
    obtain ⟨-, rfl⟩ : tag = tag' ∧ l = l' := by simpa using hargs
    rcases e with p | q
    · contradiction
    · obtain rfl := Object.mob.inj hrecv
      exact ⟨q, r, rfl, hmob, hworld, hne⟩
  · rintro ⟨m, r, rfl, hmob, hworld, hne⟩
    exact ⟨m, tag, l, r, rfl, rfl, rfl, hmob, hworld, hne⟩

/-- A server stays well peopled whatever is called, and its mobs stay at home unless one of them
    is moved to another world. -/
theorem settled_result (hm : ∃ b : Builtin, k.method ∈ b.methods)
    (hs : k.store.realm.Peopled s) :
    (k.result .builtins).2.realm.Peopled s ∧
      (k.store.realm.AtHome → ((k.result .builtins).2.realm.AtHome ↔ ¬k.Strays)) := by
  obtain ⟨b, hm⟩ := hm
  obtain ⟨m, recv, args, t⟩ := k
  rw [result]
  -- All methods but one let everyone stay, and that one does so but for entities and locations.
  by_cases hmove : m = .teleport
  case neg =>
    have hstays : Realm.Stays t.realm (m.invoke .builtins recv args t).2.realm :=
      ((Builtin.stays_methods hm).resolve_left hmove).invoke .builtins recv args t
    refine ⟨hs.of_stays hstays, fun hhome => iff_of_true (hhome.of_stays hstays) ?_⟩
    rintro ⟨-, -, -, -, hmethod, -⟩
    exact hmove hmethod
  obtain rfl := hmove
  by_cases hform : ∃ e tag l, recv = .ofEntity e ∧ args = [some (.value tag (.location l))]
  case neg =>
    rw [Method.snd_invoke_teleport_of_ne .builtins t hform]
    refine ⟨hs, fun hhome => iff_of_true hhome ?_⟩
    rintro ⟨m, tag, l, r, -, rfl, rfl, -⟩
    exact hform ⟨.mob m, tag, l, rfl, rfl⟩
  obtain ⟨e, tag, l, rfl, rfl⟩ := hform
  rw [Method.snd_invoke_teleport]
  rw [strays_teleport_iff]
  exact Realm.settled_teleport hs e l

end Call

/-! ## Whom worlds list -/

namespace Realm

/-- Whom a world lists: the players that stand in it, and the mobs that were spawned in it. -/
def entitiesOf (realm : Realm) (r : Ref .world) : List EntityRef :=
  (realm.playersIn r).map .player ++ (realm.mobsOf r).map .mob

/-- Who is on a server: the players that are online, and the mobs of its worlds. -/
def inhabitants (realm : Realm) (s : Ref .server) : List EntityRef :=
  (realm.playersOf s).map .player ++ ((realm.worldsOf s).flatMap realm.mobsOf).map .mob

/-- Whether each world lists those who stand in it, each once, and no one else. -/
def ListsExactly (realm : Realm) (s : Ref .server) : Prop :=
  ∀ r, (realm.worlds.get? r).isSome → (realm.entitiesOf r).Nodup ∧
    ∀ e, e ∈ realm.entitiesOf r ↔ e ∈ realm.inhabitants s ∧ realm.StandsIn e r

/-- What is right of the lists in any case: no one is listed twice, and players where they stand. -/
structure ListsOnce (realm : Realm) (s : Ref .server) : Prop where
  nodup : ∀ r, (realm.entitiesOf r).Nodup
  apart : ∀ r r' e, e ∈ realm.entitiesOf r → e ∈ realm.entitiesOf r' → r = r'
  players : ∀ r, (realm.worlds.get? r).isSome → ∀ p, EntityRef.player p ∈ realm.entitiesOf r ↔
    p ∈ realm.playersOf s ∧ realm.StandsIn (.player p) r

variable {realm : Realm} {s : Ref .server} {r : Ref .world} {p : Ref .player} {m : Ref .mob}

@[simp] theorem player_mem_entitiesOf : .player p ∈ realm.entitiesOf r ↔ p ∈ realm.playersIn r := by
  simp [entitiesOf]

@[simp] theorem mob_mem_entitiesOf : .mob m ∈ realm.entitiesOf r ↔ m ∈ realm.mobsOf r := by
  simp [entitiesOf]

@[simp] theorem player_mem_inhabitants :
    .player p ∈ realm.inhabitants s ↔ p ∈ realm.playersOf s := by
  simp [inhabitants]

@[simp] theorem mob_mem_inhabitants :
    .mob m ∈ realm.inhabitants s ↔ ∃ r ∈ realm.worldsOf s, m ∈ realm.mobsOf r := by
  simp [inhabitants]

/-- A world that lists someone is there. -/
theorem isSome_of_mem_entitiesOf {e : EntityRef} (he : e ∈ realm.entitiesOf r) :
    (realm.worlds.get? r).isSome := by
  by_contra hnone
  rw [Option.not_isSome_iff_eq_none] at hnone
  simp [entitiesOf, playersIn, mobsOf, hnone] at he

theorem standsIn_player_iff :
    realm.StandsIn (.player p) r ↔
      (realm.players.get? p).any fun player => player.base.location.world = r := by
  simp [StandsIn, entity?, Option.any_eq_true]

/-- The players of a world are those of the server that stand in it. -/
theorem Peopled.playersIn_eq (h : realm.Peopled s) (hr : (realm.worlds.get? r).isSome) :
    realm.playersIn r = (realm.playersOf s).filter fun p =>
      (realm.players.get? p).any fun player => player.base.location.world = r := by
  obtain ⟨w, hw⟩ := Option.isSome_iff_exists.1 hr
  have hserver : realm.serverOf? w = some s := by
    rw [serverOf?, h.owner r w hw]
    simp [h.server]
  rw [playersIn, hw, Option.bind_some, hserver]

theorem Peopled.mem_playersIn_iff (h : realm.Peopled s) (hr : (realm.worlds.get? r).isSome) :
    p ∈ realm.playersIn r ↔ p ∈ realm.playersOf s ∧ realm.StandsIn (.player p) r := by
  rw [h.playersIn_eq hr, List.mem_filter, standsIn_player_iff]

theorem Peopled.listsOnce (h : realm.Peopled s) : realm.ListsOnce s := by
  refine ⟨fun r => ?nodup, fun r r' e he he' => ?apart,
    fun r hr p => player_mem_entitiesOf.trans (h.mem_playersIn_iff hr)⟩
  case nodup =>
    have hplayers : (realm.playersIn r).Nodup := by
      by_cases hr : (realm.worlds.get? r).isSome
      · exact h.playersIn_eq hr ▸ h.players_nodup.filter _
      · rw [Option.not_isSome_iff_eq_none] at hr
        simp [playersIn, hr]
    refine List.nodup_append'.2 ⟨hplayers.map fun _ _ => EntityRef.player.inj,
      (h.mobs_nodup r).map fun _ _ => EntityRef.mob.inj, fun e he he' => ?_⟩
    obtain ⟨p, -, rfl⟩ := List.mem_map.1 he
    simp at he'
  case apart =>
    have hr := isSome_of_mem_entitiesOf he
    have hr' := isSome_of_mem_entitiesOf he'
    rcases e with p | m
    · rw [player_mem_entitiesOf] at he he'
      exact ((h.mem_playersIn_iff hr).1 he).2.unique ((h.mem_playersIn_iff hr').1 he').2
    · exact h.mobs_apart r r' m (mob_mem_entitiesOf.1 he) (mob_mem_entitiesOf.1 he')

/-- The lists are right if and only if all mobs are at home. -/
theorem Peopled.listsExactly_iff_atHome (h : realm.Peopled s) :
    realm.ListsExactly s ↔ realm.AtHome := by
  constructor
  · intro hexact r m hm
    have hr := isSome_of_mem_entitiesOf (mob_mem_entitiesOf.2 hm)
    exact (((hexact r hr).2 _).1 (mob_mem_entitiesOf.2 hm)).2
  · refine fun hhome r hr => ⟨h.listsOnce.nodup r, fun e => ?_⟩
    rcases e with p | m
    · rw [h.listsOnce.players r hr, player_mem_inhabitants]
    · rw [mob_mem_entitiesOf, mob_mem_inhabitants]
      constructor
      · exact fun hm => ⟨⟨r, (h.loaded r).2 hr, hm⟩, hhome r m hm⟩
      · rintro ⟨⟨r', -, hm⟩, hstands⟩
        exact hstands.unique (hhome r' m hm) ▸ hm

end Realm

/-- The method that tells whom a world lists. -/
def Method.getEntities : Method := worldMethods.get ⟨12, by decide⟩

namespace Method

theorem body_getEntities (h : Hierarchy) (recv : Object) (args : List Value) :
    getEntities.body h recv args = (do
      let (r, w) ← worldReceiver h recv
      Act.newListOf ((← Act.ask (·.playersIn r)).map .player ++ w.mobs.map .mob)) := rfl

theorem run_worldReceiver (h : Hierarchy) {s : Store} {r : Ref .world} {w : World}
    (hw : s.realm.worlds.get? r = some w) : worldReceiver h (.world r) s = (.ok (r, w), s) := by
  have hrecv : receiver (Ref .world) h (.world r) .world = .ok r := rfl
  simp only [worldReceiver, bind_apply, Act.ofExcept, hrecv, Act.realm, Realm.run_getWorld, hw]
  rfl

theorem run_getEntities {s : Store} {r : Ref .world} (hr : (s.realm.worlds.get? r).isSome) :
    (getEntities.invoke .builtins (.world r) [] s).1 =
      .ok (some (.list s.supply ((s.realm.entitiesOf r).map fun e => some (.ofEntity e)))) := by
  obtain ⟨w, hw⟩ := Option.isSome_iff_exists.1 hr
  have hobstacle : getEntities.obstacle? .builtins (.world r) [] = none :=
    obstacle?_eq_none_iff.2 ⟨Hierarchy.builtins.isA_self _, .nil⟩
  have hlisted : (s.realm.entitiesOf r).map Object.ofEntity =
      (s.realm.playersIn r).map .player ++ w.mobs.map .mob := by
    rw [Realm.entitiesOf, Realm.mobsOf, hw, List.map_append, List.map_map, List.map_map]
    rfl
  have hbody : getEntities.body .builtins (.world r) [] s =
      Act.newListOf ((s.realm.entitiesOf r).map .ofEntity) s := by
    rw [body_getEntities, bind_apply, run_worldReceiver .builtins hw, hlisted]
    rfl
  rw [invoke_eq, hobstacle, hbody, Act.newListOf, List.map_map]
  rfl

end Method

namespace Plugin

/-- From when a server is loaded, whatever commands are run, no one is listed twice, and players are
    listed where they stand. The lists are right all along exactly if no mob is moved to another
    world than the one that lists it. -/
theorem listsExactly_states_iff {snapshot : Snapshot} {o : Ref .world → BlockOrder}
    {server : Ref .server} {s : Store}
    (hload : snapshot.load (.ordered o) = (.ok server, s.realm)) (access : AccessPolicy)
    (c : Config) (commands : List (Sender × Command)) :
    (∀ t ∈ (make server access).enable.states c commands s, t.realm.ListsOnce server ∧
        ∀ r, (t.realm.worlds.get? r).isSome →
          (Method.getEntities.invoke .builtins (.world r) [] t).1 =
            .ok (some (.list t.supply ((t.realm.entitiesOf r).map fun e => some (.ofEntity e))))) ∧
      ((∀ t ∈ (make server access).enable.states c commands s, t.realm.ListsExactly server) ↔
        ∀ k ∈ (make server access).enable.allCalls c commands s, ¬k.Strays) := by
  obtain ⟨hpeopled, hhome⟩ := Snapshot.settled_load hload
  have hready := ready_make_enable server access
  have hstates := hready.invariant_states (R := Realm.Stays)
    (I := fun realm => realm.Peopled server) (fun m n => Realm.stays_newStack _)
    (fun a b hab ha => ha.of_stays hab)
    (fun k hm hk => (k.settled_result hm hk).1) c commands hpeopled
  refine ⟨fun t ht => ⟨(hstates t ht).listsOnce, fun r hr => Method.run_getEntities hr⟩, ?_⟩
  rw [← hready.good_states_iff (R := Realm.Stays) (I := fun realm => realm.Peopled server)
    (G := Realm.AtHome) (fun m n => Realm.stays_newStack _)
    (fun a b hab ha => ⟨ha.of_stays hab, fun hhome => hhome.of_stays hab⟩)
    (fun k hm hk => k.settled_result hm hk) c commands hpeopled hhome]
  exact forall₂_congr fun t ht => (hstates t ht).listsExactly_iff_atHome

end Plugin

/-- A server with two worlds, and a pig in the first one. -/
def Snapshot.pigsty : Snapshot :=
  { Snapshot.default with
    worlds :=
      [{ WorldSpec.default with name := "a", mobs := [⟨.pig, (0, 0, 0)⟩] },
        { WorldSpec.default with name := "b" }] }

/-- The pig is moved to the second world. -/
def Command.movePig : Command := .chain (.entity "#1") ["teleport(Location)", "b,0,0,0"]

/-- The pig is still listed by the first world, so a mob has been moved from the world that lists
    it. -/
theorem Plugin.listsExactly_states_iff_pigsty :
    let p := (make ⟨0⟩ .exportedOnly).enable
    let s := { Store.empty with realm := (Snapshot.pigsty.load Realm.empty).2 }
    let commands := [(Sender.console, Command.movePig)]
    (¬∀ t ∈ p.states .default commands s, t.realm.ListsExactly ⟨0⟩) ∧
      ∃ k ∈ p.allCalls .default commands s, k.Strays := by
  intro p s commands
  have hload : Snapshot.pigsty.load Realm.empty = (.ok ⟨0⟩, s.realm) := rfl
  let last := (p.execute .default .console .movePig s).2.2
  have hlast : last ∈ p.states .default commands s := by simp [commands, states, last]
  have hplace : (last.realm.entity? (.mob ⟨0⟩)).map (·.location.world) = some ⟨1⟩ := by
    decide +kernel
  have hlisted : ⟨0⟩ ∈ last.realm.mobsOf ⟨0⟩ := by decide +kernel
  have hwrong : ¬last.realm.ListsExactly ⟨0⟩ := by
    intro hexact
    have hlisted := Realm.mob_mem_entitiesOf.2 hlisted
    have hthere := Realm.isSome_of_mem_entitiesOf hlisted
    obtain ⟨x, hx, hxr⟩ := (((hexact _ hthere).2 _).1 hlisted).2
    rw [hx, Option.map_some, hxr] at hplace
    exact absurd (Option.some.inj hplace) (by decide)
  have hall : ¬∀ t ∈ p.states .default commands s, t.realm.ListsExactly ⟨0⟩ :=
    fun hall => hwrong (hall last hlast)
  rw [(listsExactly_states_iff hload .exportedOnly .default commands).2] at hall
  refine ⟨fun hexact => hwrong (hexact last hlast), ?_⟩
  simpa only [not_forall, not_not, exists_prop] using hall

end Chainwalk
