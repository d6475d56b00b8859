import Chainwalk.Proofs.Seeds.Realm
import Chainwalk.Snapshot.Basic

/-!
# Loading snapshots with other seeds

Two snapshots that differ in nothing but seeds load in step, wherever blocks come in whichever
order: what comes of one is what comes of the other, in disguise.

* `Snapshot.unseeded`: a snapshot without its seeds;
* `Snapshot.exists_load_disguised`: loading is the same up to seeds and the order of blocks.
-/

namespace Chainwalk

namespace Table

variable {kind : Resident} {α : Type} (t : Table kind α)

theorem mapRefs_congr {g g' : Ref kind → α → α} (hg : ∀ r a, t.get? r = some a → g r a = g' r a) :
    t.mapRefs g = t.mapRefs g' := by
  simp only [mapRefs, Table.mk.injEq]
  refine Array.ext_getElem? fun i => ?_
  simp only [Array.getElem?_mapIdx]
  rcases hi : t.entries[i]? with _ | _ | a
  · rfl
  · rfl
  · simp only [Option.map_some, Option.some.injEq]
    exact hg ⟨i⟩ a (by simp [get?, hi])

end Table

namespace Realm

variable {f g : Disguise}

/-- Only the seeds matter of worlds that are there. -/
theorem disguised_congr {realm : Realm}
    (hfg : ∀ r w, realm.worlds.get? r = some w → f.seed r w.seed = g.seed r w.seed)
    (horder : f.order = g.order) : realm.disguised f = realm.disguised g := by
  rw [disguised, disguised, Table.mapRefs_congr _ fun r w hw => by rw [hfg r w hw], horder]

/-- Where nothing lives, only the orders matter. -/
theorem disguised_ordered (o : Ref .world → BlockOrder) :
    (ordered o).disguised f = ordered f.order := by
  rw [ordered, ordered, disguised]
  rfl

theorem run_createWorld (s : Ref .server) (name : String) (seed : UInt64) (realm : Realm) :
    createWorld s name seed realm =
      if (realm.world? s name).isSome then (.error (.worldExists name), realm)
      else
        (.ok realm.worlds.next,
          { realm with
            servers := realm.servers.modify s fun server =>
              { server with worlds := server.worlds ++ [realm.worlds.next] }
            worlds := realm.worlds.insert (.make name seed (some s)) }) := by
  rw [createWorld]
  change (if (realm.world? s name).isSome then _ else _ : RealmM (Ref .world)) realm = _
  split <;> rfl

/-- A world is created with its new seed. -/
theorem createWorld_disguised (s : Ref .server) (name : String) (seed : UInt64) (realm : Realm) :
    createWorld s name (f.seed realm.worlds.next seed) (realm.disguised f) =
      ((createWorld s name seed realm).1, (createWorld s name seed realm).2.disguised f) := by
  rw [run_createWorld, run_createWorld, world?_disguised]
  split
  · rfl
  · simp only [disguised, Table.next_mapRefs, Table.mapRefs_insert]
    rfl

end Realm

namespace WorldSpec

/-- The world without its seed. -/
def unseeded (w : WorldSpec) : WorldSpec := { w with seed := 0 }

theorem eq_of_unseeded {w v : WorldSpec} (hwv : w.unseeded = v.unseeded) :
    ∃ seed, v = { w with seed } := by
  obtain ⟨name, seed, time, weather, spawn, fills, mobs⟩ := w
  obtain ⟨name', seed', time', weather', spawn', fills', mobs'⟩ := v
  simp only [unseeded, mk.injEq, true_and] at hwv
  obtain ⟨rfl, rfl, rfl, rfl, rfl, rfl⟩ := hwv
  exact ⟨seed', rfl⟩

end WorldSpec

namespace Snapshot

open Realm

variable {f : Disguise}

theorem blind_forCount {action : Int32 → RealmM Unit}
    (ha : ∀ n, Blind (disguised f) (action n)) (count : Nat) (first : Int) :
    Blind (disguised f) (forCount action count first) := by
  induction count generalizing first with
  | zero => exact .pure _
  | succ count ih => exact (ha _).bind fun _ => ih _

theorem blind_loadFill (r : Ref .world) (fill : Fill) :
    Blind (disguised f) (loadFill r fill) :=
  blind_forCount (fun x => blind_forCount (fun y => blind_forCount (fun z =>
    blind_setBlock r ⟨x, y, z⟩ fill.material) _ _) _ _) _ _

theorem blind_loadPlayer (s : Ref .server) (p : PlayerSpec) :
    Blind (disguised f) (loadPlayer s p) := by
  refine .get_bind (fun realm => ?_) fun realm => by
    simp only [defaultWorld?_disguised, world?_disguised, spawnLocation?_disguised]
  cases (if p.world.isEmpty then realm.defaultWorld? s else realm.world? s p.world) with
  | none => exact .throw _
  | some r =>
    refine (blind_join s _ _).bind fun joined => (blind_modifyPlayer joined _).bind fun _ =>
      (blind_getPlayer joined).bind fun player => .forM (fun item => ?_) _
    exact (blind_addItems _ _ _).bind fun _ => .pure _

/-- What is put into a world once it is created. -/
def furnish (w : WorldSpec) (r : Ref .world) : RealmM Unit := do
  modifyWorld r fun world =>
    { world with time := w.time, weather := w.weather, spawn := w.spawn.getD world.spawn }
  w.fills.forM (loadFill r)
  w.mobs.forM fun m => do
    let _ ← spawnMob r m.kind (locationIn r m.position)

theorem loadWorld_eq (s : Ref .server) (w : WorldSpec) :
    loadWorld s w = createWorld s w.name w.seed >>= furnish w := rfl

theorem blind_furnish (w : WorldSpec) (r : Ref .world) : Blind (disguised f) (furnish w r) := by
  refine (blind_modifyWorld r fun _ _ => rfl).bind fun _ =>
    (Blind.forM (blind_loadFill r) _).bind fun _ => .forM (fun m => ?_) _
  exact (blind_spawnMob r _ _).bind fun _ => .pure _

/-- Worlds that differ in seeds alone are loaded alike, up to the seed of the new world. -/
theorem exists_loadWorld_disguised (s : Ref .server) {w v : WorldSpec}
    (hwv : w.unseeded = v.unseeded) (f : Disguise) (realm : Realm) :
    ∃ g, g.order = f.order ∧ loadWorld s v (realm.disguised f) =
      ((loadWorld s w realm).1, (loadWorld s w realm).2.disguised g) := by
  obtain ⟨seed, rfl⟩ := WorldSpec.eq_of_unseeded hwv
  -- The new world is not there yet, so it does not matter which seed it would have.
  let g : Disguise :=
    { f with seed := fun r z => if r = realm.worlds.next then seed else f.seed r z }
  have hfg : realm.disguised f = realm.disguised g := by
    refine disguised_congr (fun r w hw => ?_) rfl
    have hr : r ≠ realm.worlds.next := by
      rintro rfl
      rw [Table.get?_next] at hw
      cases hw
    simp only [g, if_neg hr]
  have hseed : g.seed realm.worlds.next w.seed = seed := if_pos rfl
  refine ⟨g, rfl, ?_⟩
  have hcreate := createWorld_disguised (f := g) s w.name w.seed realm
  rw [hseed, ← hfg] at hcreate
  rw [loadWorld_eq, loadWorld_eq, bind_apply, bind_apply, hcreate]
  rcases createWorld s w.name w.seed realm with ⟨refusal | r, t⟩
  · rfl
  · exact blind_furnish w r t

/-- The snapshot without the seeds of its worlds. -/
def unseeded (s : Snapshot) : Snapshot := { s with worlds := s.worlds.map WorldSpec.unseeded }

theorem exists_forM_loadWorld_disguised (s : Ref .server) {ws vs : List WorldSpec}
    (hws : ws.map WorldSpec.unseeded = vs.map WorldSpec.unseeded)
    (f : Disguise) (realm : Realm) :
    ∃ g, g.order = f.order ∧ vs.forM (loadWorld s) (realm.disguised f) =
      ((ws.forM (loadWorld s) realm).1, (ws.forM (loadWorld s) realm).2.disguised g) := by
  induction ws generalizing vs f realm with
  | nil =>
    obtain rfl : vs = [] := List.map_eq_nil_iff.1 hws.symm
    exact ⟨f, rfl, rfl⟩
  | cons w ws ih =>
    cases vs with
    | nil => cases hws
    | cons v vs =>
      rw [List.map_cons, List.map_cons, List.cons.injEq] at hws
      obtain ⟨g, horder, hg⟩ := exists_loadWorld_disguised s hws.1 f realm
      have hcons (x : WorldSpec) (xs : List WorldSpec) :
          (x :: xs).forM (loadWorld s) = loadWorld s x >>= fun _ => xs.forM (loadWorld s) := rfl
      rw [hcons, hcons, bind_apply, bind_apply, hg]
      rcases loadWorld s w realm with ⟨refusal | _, t⟩
      · exact ⟨g, horder, rfl⟩
      · obtain ⟨g', horder', hg'⟩ := ih hws.2 g t
        exact ⟨g', horder'.trans horder, hg'⟩

/-- Snapshots that differ in seeds alone are loaded alike, up to the seeds of the worlds and the
    orders in which their blocks come. -/
theorem exists_load_disguised {a b : Snapshot} (hab : a.unseeded = b.unseeded)
    (o o' : Ref .world → BlockOrder) :
    ∃ f : Disguise, f.order = o' ∧ b.load (.ordered o') =
      ((a.load (.ordered o)).1, (a.load (.ordered o)).2.disguised f) := by
  obtain ⟨name, maxPlayers, ws, players⟩ := a
  obtain ⟨name', maxPlayers', vs, players'⟩ := b
  simp only [unseeded, mk.injEq] at hab
  obtain ⟨rfl, rfl, hws, rfl⟩ := hab
  have hload (ws : List WorldSpec) (realm : Realm) :
      load ⟨name, maxPlayers, ws, players⟩ realm = (newServer (.make name maxPlayers) >>= fun r =>
        ws.forM (loadWorld r) >>= fun _ => players.forM (loadPlayer r) >>= fun _ => pure r)
          realm := rfl
  let f : Disguise := ⟨fun _ seed => seed, o', fun _ => 0⟩
  have hnew : Blind (disguised f) (newServer (.make name maxPlayers)) := .modifyGet fun _ => rfl
  have hordered : (Realm.ordered o).disguised f = Realm.ordered o' := disguised_ordered (f := f) o
  -- The server is made before there are worlds, and the players join when the worlds are there.
  rw [← hordered, hload, hload, bind_apply, bind_apply, hnew]
  rcases newServer (.make name maxPlayers) (.ordered o) with ⟨refusal | r, realm⟩
  · exact ⟨f, rfl, rfl⟩
  · obtain ⟨g, horder, hg⟩ := exists_forM_loadWorld_disguised r hws f realm
    refine ⟨g, horder, ?_⟩
    dsimp only
    rw [bind_apply, bind_apply, hg]
    rcases ws.forM (loadWorld r) realm with ⟨refusal | _, t⟩
    · rfl
    · exact ((Blind.forM (blind_loadPlayer r) players).bind fun _ => .pure r) t

end Snapshot

end Chainwalk
