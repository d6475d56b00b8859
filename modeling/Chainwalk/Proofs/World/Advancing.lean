import Chainwalk.Proofs.World.Clock

/-!
# Time in one go

Ticks that pass in lots, one lot after another, are counted by every clock on its own up to the
greatest time, and each of them may stop at another lot. Still it does not matter into which lots
the ticks are divided, nor in which order these come: they lead a realm to where all the ticks
together would. Ticks, added as clocks add them, act on realms.

* `Clock.total`: lots of ticks together;
* `Realm.advance_zero`, `Realm.advance_advance`: they act on realms;
* `Realm.Elapsed`: what changes when time passes, and that nothing else does;
* `Realm.advance_each`: time in lots and in one go.
-/

namespace Chainwalk

/-! ## A clock -/

namespace Clock

variable {ticks ticks' : List UInt64}

/-- Lots of ticks together, as far as a clock counts. -/
def total (ticks : List UInt64) : UInt64 := ticks.foldr later 0

theorem toNat_total (ticks : List UInt64) :
    (total ticks).toNat = min (2 ^ 64 - 1) (ticks.map UInt64.toNat).sum := by
  induction ticks with
  | nil => rfl
  | cons n ticks ih =>
    rw [total, List.foldr_cons, toNat_later, ← total, ih, List.map_cons, List.sum_cons]
    omega

theorem total_perm (h : ticks'.Perm ticks) : total ticks' = total ticks := by
  rw [← UInt64.toNat_inj, toNat_total, toNat_total, (h.map _).sum_eq]

@[simp] theorem later_zero (c : UInt64) : later c 0 = c := by
  have hc := c.toNat_lt
  rw [← UInt64.toNat_inj, toNat_later, UInt64.toNat_zero]
  omega

theorem later_later (c m n : UInt64) : later (later c m) n = later c (later m n) := by
  rw [← UInt64.toNat_inj, toNat_later, toNat_later, toNat_later, toNat_later]
  omega

theorem later_right_comm (c m n : UInt64) : later (later c m) n = later (later c n) m := by
  rw [← UInt64.toNat_inj, toNat_later, toNat_later, toNat_later, toNat_later]
  omega

/-- Where a clock stops does not depend on the lots in which the ticks come. -/
theorem later_total (c : UInt64) (ticks : List UInt64) :
    later c (total ticks) =
      .ofNat (min (2 ^ 64 - 1) (c.toNat + (ticks.map UInt64.toNat).sum)) := by
  rw [← UInt64.toNat_inj, toNat_later, toNat_total, UInt64.toNat_ofNat']
  omega

end Clock

/-! ## The clocks of a server -/

namespace Server

theorem advanced_zero : (·.advanced 0 : Server → Server) = id := by
  funext v
  exact congrArg (fun c => { v with tick := c }) (Clock.later_zero v.tick)

theorem advanced_comp_advanced (m n : UInt64) :
    ((·.advanced n) ∘ (·.advanced m) : Server → Server) = (·.advanced (Clock.later m n)) := by
  funext v
  exact congrArg (fun c => { v with tick := c }) (Clock.later_later v.tick m n)

end Server

namespace World

theorem advanced_zero : (·.advanced 0 : World → World) = id := by
  funext w
  exact congrArg (fun c => { w with time := c }) (Clock.later_zero w.time)

theorem advanced_comp_advanced (m n : UInt64) :
    ((·.advanced n) ∘ (·.advanced m) : World → World) = (·.advanced (Clock.later m n)) := by
  funext w
  exact congrArg (fun c => { w with time := c }) (Clock.later_later w.time m n)

theorem commute_advanced (m n : UInt64) :
    Function.Commute (·.advanced n : World → World) (·.advanced m) := fun w =>
  congrArg (fun c => { w with time := c }) (Clock.later_right_comm w.time m n)

end World

namespace Realm

variable {realm : Realm} {s : Ref .server}

theorem advance_eq (s : Ref .server) (n : UInt64) (realm : Realm) :
    advance s n realm = (.ok (), { realm with
      servers := realm.servers.modify s (·.advanced n)
      worlds := (realm.worldsOf s).foldl (fun t r => t.modify r (·.advanced n)) realm.worlds }) :=
  rfl

theorem advance_zero (s : Ref .server) (realm : Realm) : advance s 0 realm = (.ok (), realm) := by
  rw [advance_eq, Server.advanced_zero, World.advanced_zero, Table.modify_id]
  simp only [Table.modify_id, List.foldl_fixed]

/-- A world that a server lists more than once is advanced as often by either lot. -/
theorem advance_advance (s : Ref .server) (m n : UInt64) (realm : Realm) :
    advance s n (advance s m realm).2 = advance s (Clock.later m n) realm := by
  have hlisted : (advance s m realm).2.worldsOf s = realm.worldsOf s :=
    (sameWorlds_advance s m realm).worldsOf s
  rw [advance_eq s n, hlisted, advance_eq, advance_eq]
  dsimp only
  rw [Table.modify_modify, Table.foldl_modify_foldl_modify (World.commute_advanced m n),
    Server.advanced_comp_advanced, World.advanced_comp_advanced]

/-- Lots of ticks one after another lead to where they lead together. -/
theorem forM_advance (s : Ref .server) (ticks : List UInt64) (realm : Realm) :
    ticks.forM (advance s) realm = advance s (Clock.total ticks) realm := by
  induction ticks generalizing realm with
  | nil => exact (advance_zero s realm).symm
  | cons n ticks ih =>
    have hfirst : advance s n realm = (.ok (), (advance s n realm).2) := rfl
    change (advance s n >>= fun _ => ticks.forM (advance s)) realm = _
    rw [bind_apply, hfirst]
    exact (ih _).trans (advance_advance s n _ realm)

/-- From one realm to the other so many ticks have passed on a server. Its clock and those of its
    worlds have advanced as far as they count, and nothing else has changed. -/
structure Elapsed (s : Ref .server) (n : Nat) (a b : Realm) : Prop where
  server : b.servers.get? s = (a.servers.get? s).map fun v =>
    { v with tick := .ofNat (min (2 ^ 64 - 1) (v.tick.toNat + n)) }
  worlds : ∀ r ∈ a.worldsOf s, b.worlds.get? r = (a.worlds.get? r).map fun w =>
    { w with time := .ofNat (min (2 ^ 64 - 1) (w.time.toNat + n)) }
  otherServers : ∀ q ≠ s, b.servers.get? q = a.servers.get? q
  otherWorlds : ∀ r ∉ a.worldsOf s, b.worlds.get? r = a.worlds.get? r
  rest : b = { a with servers := b.servers, worlds := b.worlds }

theorem elapsed_advance (hnodup : (realm.worldsOf s).Nodup) (ticks : List UInt64) :
    Elapsed s (ticks.map UInt64.toNat).sum realm (advance s (Clock.total ticks) realm).2 where
  server := by
    rw [get?_servers_advance]
    exact Option.map_congr fun v _ =>
      congrArg (fun c => { v with tick := c }) (Clock.later_total v.tick ticks)
  worlds r hr := by
    rw [get?_worlds_advance hnodup, if_pos hr]
    exact Option.map_congr fun w _ =>
      congrArg (fun c => { w with time := c }) (Clock.later_total w.time ticks)
  otherServers q hq := by
    change (realm.servers.modify s _).get? q = _
    rw [Table.get?_modify, if_neg hq]
  otherWorlds r hr := by
    rw [get?_worlds_advance hnodup, if_neg hr]
  rest := rfl

/-- Time that passes on a server in lots, whatever their order, passes as it does in one go: clocks
    that count less than `2 ^ 64 - 1` have counted all ticks, the others stand there, and nothing
    else has changed. A server lists each of its worlds once, as a world is listed when it is made
    and at no other time (`WorldsApart.nodup_worldsOf`). -/
theorem advance_each (hnodup : (realm.worldsOf s).Nodup) (ticks : List UInt64) :
    (Clock.total ticks).toNat = min (2 ^ 64 - 1) (ticks.map UInt64.toNat).sum ∧
    (∀ lots : List UInt64, lots.Perm ticks →
      lots.forM (advance s) realm = advance s (Clock.total ticks) realm) ∧
    Elapsed s (ticks.map UInt64.toNat).sum realm (ticks.forM (advance s) realm).2 := by
  refine ⟨Clock.toNat_total ticks, fun lots hlots => ?_, ?_⟩
  · rw [forM_advance, Clock.total_perm hlots]
  · rw [forM_advance]
    exact elapsed_advance hnodup ticks

end Realm

/-- A server with a world that is about to come to the greatest time and one that is new. -/
def Snapshot.lastHours : Snapshot :=
  { Snapshot.default with
    worlds := [{ WorldSpec.default with name := "old", time := 18446744073709551610 },
      { WorldSpec.default with name := "new" }] }

/-- The old world stops within the first lot of ticks, the server and the new one count them all. -/
theorem Realm.advance_each_lastHours :
    let realm := (Snapshot.lastHours.load Realm.empty).2
    let after := ([2000, 3, 4] : List UInt64).forM (advance ⟨0⟩) realm
    (realm.worldsOf ⟨0⟩).Nodup ∧ after = advance ⟨0⟩ 2007 realm ∧
      ([4, 2000, 3] : List UInt64).forM (advance ⟨0⟩) realm = after ∧
      (after.2.worlds.get? ⟨0⟩).map World.time = some 18446744073709551615 ∧
      (after.2.worlds.get? ⟨1⟩).map World.time = some 2007 := by
  intro realm after
  have hnodup : (realm.worldsOf ⟨0⟩).Nodup := by decide +kernel
  obtain ⟨-, hlots, helapsed⟩ := advance_each hnodup [2000, 3, 4]
  have htotal : Clock.total [2000, 3, 4] = 2007 := by decide
  rw [htotal] at hlots
  have hafter : after = advance ⟨0⟩ 2007 realm := hlots _ (.refl _)
  have htime {r : Ref .world} {c d : UInt64} (hr : r ∈ realm.worldsOf ⟨0⟩)
      (hc : (realm.worlds.get? r).map World.time = some c)
      (hd : .ofNat (min (2 ^ 64 - 1) (c.toNat + 2007)) = d) :
      (after.2.worlds.get? r).map World.time = some d := by
    obtain ⟨w, hw, rfl⟩ := Option.map_eq_some_iff.1 hc
    rw [helapsed.worlds r hr, hw]
    exact congrArg some hd
  have hold : (realm.worlds.get? ⟨0⟩).map World.time = some 18446744073709551610 := by
    decide +kernel
  have hnew : (realm.worlds.get? ⟨1⟩).map World.time = some 0 := by decide +kernel
  exact ⟨hnodup, hafter, (hlots _ (by decide)).trans hafter.symm,
    htime (by decide +kernel) hold (by decide), htime (by decide +kernel) hnew (by decide)⟩

end Chainwalk
