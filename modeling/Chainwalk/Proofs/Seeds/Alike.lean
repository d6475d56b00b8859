import Chainwalk.Proofs.Seeds.WorldList

/-!
# Servers that look alike

Who may call exported methods only is not meant to learn the seeds of worlds. On two servers
that differ in seeds alone, the commands of a session have the same answers, except to a call
that gives the text of a list in which a world is described whose seed differs. There is such
a session whenever the server has a world whose seed differs: it asks for the text of the list
of the worlds.

Such a text also shows the blocks of worlds, in the order in which they come, and this may differ
from server to server even if everything else is the same. A world with two blocks or more may tell
two servers apart by that. And hash codes come from where objects lie, which differs from server to
server.

* `Call.Reveals`, `Call.Shuffles`, `Call.Locates`: calls that tell two servers apart;
* `Session.replay_alike`: when two sessions differ in what is called and printed.
-/

namespace Chainwalk

variable {f : Disguise}

/-! ## Calls that tell servers apart -/

/-- A call that tells a realm from another one by a seed: it gives the text of an object in which a
    world is described that has one seed here and another one there. -/
def Call.Reveals (other : Realm) (k : Call) : Prop :=
  k.method.name = "toString" ∧
    ∃ r ∈ k.receiver.told k.store.realm, ∃ w v, k.store.realm.worlds.get? r = some w ∧
      other.worlds.get? r = some v ∧ w.seed ≠ v.seed

/-- A call that tells a realm from another one by an order: it gives the text of an object in which
    a world is described whose blocks come in one order here and in another one there. -/
def Call.Shuffles (other : Realm) (k : Call) : Prop :=
  k.method.name = "toString" ∧
    ∃ r ∈ k.receiver.told k.store.realm, ∃ w, k.store.realm.worlds.get? r = some w ∧
      (k.store.realm.order r).arrange w.grid ≠ (other.order r).arrange w.grid

/-- A call that tells hash codes from other ones: it gives that of an object which has another one
    there. -/
def Call.Locates (codes : Object.Identity → Int32) (k : Call) : Prop :=
  k.method.name = "hashCode" ∧ k.store.codes k.receiver.identity ≠ codes k.receiver.identity

/-- One block alone comes in the same order always. -/
theorem BlockOrder.arrange_eq_of_size_le_one (o o' : BlockOrder) {g : Grid}
    (hg : g.cells.size ≤ 1) : o.arrange g = o'.arrange g := by
  have hperm := (o.perm g).trans (o'.perm g).symm
  have hlength : (o.arrange g).length ≤ 1 := by
    rwa [(o.perm g).length_eq, Std.HashMap.length_toList]
  rcases harrange : o.arrange g with _ | ⟨e, _ | ⟨e', es⟩⟩
  · rw [harrange] at hperm
    exact hperm.nil_eq
  · rw [harrange] at hperm
    exact List.singleton_perm.1 hperm
  · simp [harrange] at hlength

namespace Realm

/-- The seed of a world, if the world is there. -/
def seed? (realm : Realm) (r : Ref .world) : Option UInt64 := (realm.worlds.get? r).map World.seed

/-- The blocks of a world in the order in which they come, if the world is there. -/
def blocks? (realm : Realm) (r : Ref .world) : Option (List (BlockPos × Material)) :=
  (realm.worlds.get? r).map fun w => (realm.order r).arrange w.grid

/-- The seeds that worlds have in another realm, and the orders in which their blocks come there,
    with hash codes. -/
def guise (other : Realm) (codes : Object.Identity → Int32) : Disguise where
  seed r seed := (other.seed? r).getD seed
  order := other.order
  codes := codes

theorem seed_guise (other : Realm) (codes : Object.Identity → Int32) (r : Ref .world)
    (seed : UInt64) : (other.guise codes).seed r seed = (other.seed? r).getD seed := rfl

theorem disguised_guise {realm other : Realm} (ho : other = realm.disguised f)
    (codes : Object.Identity → Int32) : realm.disguised (other.guise codes) = other := by
  rw [ho]
  refine disguised_congr (fun r w hw => ?_) rfl
  rw [seed_guise, seed?, get?_worlds_disguised, hw]
  rfl

/-- A world looks the same in disguise if its seed is the same and its blocks come in the same
    order. -/
theorem keeps_iff {realm : Realm} {r : Ref .world} :
    realm.Keeps f r ↔ (realm.disguised f).seed? r = realm.seed? r ∧
      (realm.disguised f).blocks? r = realm.blocks? r := by
  rw [Keeps, seed?, seed?, blocks?, blocks?, get?_worlds_disguised]
  cases realm.worlds.get? r with
  | none => simp
  | some w => simp [World.withSeed, disguised]

end Realm

theorem Call.quiet_guise_iff {other : Realm} {codes : Object.Identity → Int32} {k : Call} :
    k.Quiet (other.guise codes) ↔ ¬k.Reveals other ∧ ¬k.Shuffles other ∧ ¬k.Locates codes := by
  constructor
  · intro hq
    refine ⟨fun ⟨hname, r, hr, w, v, hw, hv, hne⟩ => ?_, fun ⟨hname, r, hr, w, hw, hne⟩ => ?_,
      fun ⟨hname, hne⟩ => hne (hq.code hname).symm⟩
    · have hkept := (hq.text hname r hr w hw).1
      rw [Realm.seed_guise, Realm.seed?, hv] at hkept
      exact hne hkept.symm
    · exact hne (hq.text hname r hr w hw).2.symm
  · rintro ⟨hreveals, hshuffles, hlocates⟩
    refine ⟨fun hname r hr w hw => ⟨?_, ?_⟩, fun hname => ?_⟩
    · rw [Realm.seed_guise, Realm.seed?]
      cases hv : other.worlds.get? r with
      | none => rfl
      | some v =>
        by_cases hne : w.seed = v.seed
        · exact hne.symm
        · exact absurd ⟨hname, r, hr, w, v, hw, hv, hne⟩ hreveals
    · by_contra hne
      exact hshuffles ⟨hname, r, hr, w, hw, fun heq => hne heq.symm⟩
    · by_contra hne
      exact hlocates ⟨hname, fun heq => hne heq.symm⟩

/-! ## Two servers -/

/-- The snapshot of a server with one world of the given seed. -/
def Snapshot.oneWorld (seed : UInt64) : Snapshot :=
  ⟨"s", 20, [⟨"w", seed, 0, .clear, none, [], []⟩], []⟩

namespace Session

/-- A console on a loaded server, with exported methods only to be called. -/
def guarded (c : Config) (server : Ref .server) (realm : Realm) (codes : Object.Identity → Int32) :
    Session :=
  ⟨c, (Plugin.make server .exportedOnly).enable, { Store.empty with realm, codes }, .console⟩

/-- Of two servers that differ in seeds alone, but where blocks may come in other orders and objects
    may lie elsewhere, the same calls are made in a session with the same results exactly if none of
    them gives a text in which a world is described whose seed differs or whose blocks come in
    another order, or a hash code that is another one; then the same is printed, too. But there is a
    command that prints the same only if all the worlds have the same seed and their blocks come in
    the same order, whenever results are printed as a whole. -/
theorem replay_alike {a b : Snapshot} (hab : a.unseeded = b.unseeded)
    (o o' : Ref .world → BlockOrder) (x x' : Object.Identity → Int32)
    {server server' : Ref .server} {realm realm' : Realm}
    (ha : a.load (.ordered o) = (.ok server, realm))
    (hb : b.load (.ordered o') = (.ok server', realm')) (c : Config) (steps : List ScriptStep) :
    let s := guarded c server realm x
    let t := guarded c server' realm' x'
    ((t.calls steps).map (fun k => (k.result .builtins).1) =
        (s.calls steps).map (fun k => (k.result .builtins).1) ↔
      ∀ k ∈ s.calls steps, ¬k.Reveals realm' ∧ ¬k.Shuffles realm' ∧ ¬k.Locates x') ∧
    ((∀ k ∈ s.calls steps, ¬k.Reveals realm' ∧ ¬k.Shuffles realm' ∧ ¬k.Locates x') →
      t.replay steps = s.replay steps) ∧
    (c.maxOutputChars = 0 → c.player = none →
      (t.replay [.textOfWorlds] = s.replay [.textOfWorlds] ↔
        ∀ r ∈ realm.worldsOf server,
          realm'.seed? r = realm.seed? r ∧ realm'.blocks? r = realm.blocks? r)) := by
  intro s t
  obtain ⟨f, -, hf⟩ := Snapshot.exists_load_disguised hab o o'
  rw [ha, hb, Prod.mk.injEq, Except.ok.injEq] at hf
  obtain ⟨rfl, hrealm⟩ := hf
  have hs : s.plugin.Plain := Plugin.plain_make_enable _
  -- The other realm is this one with the seeds and the orders that are found there.
  have hsame : realm.disguised (realm'.guise x') = realm' := Realm.disguised_guise hrealm x'
  have ht : s.disguised (realm'.guise x') = t := by
    simp only [s, t, guarded, disguised, Store.disguised, hsame]
    rfl
  have hquiet :
      (∀ k ∈ s.calls steps, ¬k.Reveals realm' ∧ ¬k.Shuffles realm' ∧ ¬k.Locates x') ↔
        ∀ k ∈ s.calls steps, k.Quiet (realm'.guise x') :=
    forall₂_congr fun _ _ => Call.quiet_guise_iff.symm
  rw [hquiet, ← ht]
  refine ⟨(inStep_calls hs steps).results_eq_iff, replay_disguised hs steps, fun hcut hplayer => ?_⟩
  rw [replay_textOfWorlds_disguised_iff hs hcut hplayer]
  refine forall₂_congr fun r _ => ?_
  rw [Realm.keeps_iff, show s.store.realm = realm from rfl, hsame]

/-- Asking for the text of the list of worlds tells two servers apart whose one world has
    different seeds, but not two where it has the same seed and no blocks, in whichever order these
    would come, and wherever objects lie. -/
theorem replay_alike_oneWorld :
    let c := { Config.default with maxOutputChars := 0 }
    let o : Ref .world → BlockOrder := fun _ => .sorted
    let o' : Ref .world → BlockOrder := fun _ => .stored
    let s := guarded c ⟨0⟩ ((Snapshot.oneWorld 1).load (.ordered o)).2 fun _ => 0
    let t := guarded c ⟨0⟩ ((Snapshot.oneWorld 2).load (.ordered o')).2 fun _ => 1
    let u := guarded c ⟨0⟩ ((Snapshot.oneWorld 1).load (.ordered o')).2 fun _ => 1
    t.replay [.textOfWorlds] ≠ s.replay [.textOfWorlds] ∧
      u.replay [.textOfWorlds] = s.replay [.textOfWorlds] := by
  intro c o o' s t u
  have hab : (Snapshot.oneWorld 1).unseeded = (Snapshot.oneWorld 2).unseeded := rfl
  have ha : (Snapshot.oneWorld 1).load (.ordered o) =
      (.ok ⟨0⟩, ((Snapshot.oneWorld 1).load (.ordered o)).2) := rfl
  have hb : (Snapshot.oneWorld 2).load (.ordered o') =
      (.ok ⟨0⟩, ((Snapshot.oneWorld 2).load (.ordered o')).2) := rfl
  have hb' : (Snapshot.oneWorld 1).load (.ordered o') =
      (.ok ⟨0⟩, ((Snapshot.oneWorld 1).load (.ordered o')).2) := rfl
  constructor
  · intro hprints
    obtain ⟨-, -, htext⟩ := replay_alike hab o o' (fun _ => 0) (fun _ => 1) ha hb c []
    have hseed := ((htext rfl rfl).1 hprints ⟨0⟩ List.mem_cons_self).1
    exact absurd hseed (by decide)
  · obtain ⟨-, -, htext⟩ :=
      replay_alike (a := .oneWorld 1) rfl o o' (fun _ => 0) (fun _ => 1) ha hb' c []
    refine (htext rfl rfl).2 fun r hr => ?_
    obtain rfl := List.mem_singleton.1 hr
    refine ⟨rfl, congrArg some ?_⟩
    exact BlockOrder.arrange_eq_of_size_le_one _ _ (by decide)

end Session

end Chainwalk
