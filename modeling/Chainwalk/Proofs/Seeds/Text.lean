import Chainwalk.Proofs.Seeds.Realm
import Chainwalk.Proofs.Text.Apart

/-!
# What texts tell of worlds

The description of a world shows its seed, and its blocks in the order in which they come; and so
does the description of all that has worlds in it. The text of an object is made of descriptions
only if the object is a list; every other text is the same whatever seeds and orders are.

* `Realm.Keeps`: a world that looks the same in disguise;
* `Object.shown`: the worlds that are described in the description of an object;
* `Object.told`: the worlds that are described in its text;
* `Object.text_disguised_iff`: a text is the same in disguise exactly if all the worlds are that it
  tells of.
-/

namespace Chainwalk

/-! ## Residents -/

namespace Realm

/-- Whether a world has the seed already that it gets, and its blocks come already in the order
    that they get. -/
def Keeps (f : Disguise) (realm : Realm) (r : Ref .world) : Prop :=
  ∀ w, realm.worlds.get? r = some w →
    f.seed r w.seed = w.seed ∧ (f.order r).arrange w.grid = (realm.order r).arrange w.grid

variable (f : Disguise) (realm : Realm)

/-- No two blocks are in one place, in whichever order they come. -/
theorem nodup_arrange (o : BlockOrder) (g : Grid) : ((o.arrange g).map Prod.fst).Nodup := by
  have hcells : (g.cells.toList.map Prod.fst).Nodup := by
    rw [List.nodup_iff_pairwise_ne, List.pairwise_map]
    exact g.cells.distinct_keys_toList.imp fun hne heq => by simp [heq] at hne
  exact ((o.perm g).map Prod.fst).nodup_iff.2 hcells

/-- The description of a world tells its seed and the order of its blocks. -/
theorem describeWorld_tells (r : Ref .world) (w : World) :
    Tells (f.seed r w.seed = w.seed ∧
        (f.order r).arrange w.grid = (realm.order r).arrange w.grid)
      (realm.describeWorld r w)
      ((realm.disguised f).describeWorld r (w.withSeed (f.seed r w.seed))) := by
  have hblocks := Tells.mapping (Enumerated.label : Material → String) Tells.blockPos
    (((realm.order r).perm w.grid).trans ((f.order r).perm w.grid).symm)
    (nodup_arrange (realm.order r) w.grid)
  refine Tells.congr (.record "World" (.row_behind [_] (.row_number "seed" _ _
    (.row_behind [_, _, _] (.row_field "blocks" [_, _, _] hblocks.shared))))) ?_
  rw [UInt64.toNat_inj, eq_comm, @eq_comm _ ((realm.order r).arrange w.grid)]
  rfl

theorem describe_world_tells (r : Ref .world) :
    Tells (realm.Keeps f r) (((realm.worlds.get? r).map (realm.describeWorld r)).getD gone)
      ((((realm.disguised f).worlds.get? r).map ((realm.disguised f).describeWorld r)).getD
        gone) := by
  rw [get?_worlds_disguised, Keeps]
  cases realm.worlds.get? r with
  | none =>
    simp only [Option.map_none, Option.getD_none]
    exact .refl (fun _ hw => by cases hw) gone
  | some w =>
    simp only [Option.map_some, Option.getD_some, Option.some.injEq, forall_eq']
    exact describeWorld_tells f realm r w

/-- The description of a server tells what those of its worlds do. -/
theorem describeServer_tells (s : Server) :
    Tells (∀ r ∈ s.worlds, realm.Keeps f r) (realm.describeServer s)
      ((realm.disguised f).describeServer s) :=
  have hworlds := (Tells.intercalate ", " (describe_world_tells f realm) s.worlds).bracketed.shared
  .record "Server" (.row_behind [_, _, _, _] (.row_field "worlds" [_, _] hworlds))

end Realm

/-! ## Objects -/

namespace Object

section

variable (realm : Realm)

mutual

/-- The worlds that are described in the description of an object. -/
def shown : Object → List (Ref .world)
  | list _ elements => shownByAll elements
  | server r => realm.worldsOf r
  | world r => [r]
  | value _ _ | player _ | mob _ | inventory _ | stack _ => []

/-- The worlds that are described in the descriptions of the elements of a list. -/
def shownByAll : List (Option Object) → List (Ref .world)
  | [] => []
  | v :: vs => shownByValue v ++ shownByAll vs

/-- The worlds that are described in the description of an object or null. -/
def shownByValue : Option Object → List (Ref .world)
  | none => []
  | some o => shown o

end

/-- The worlds that are described in the text of an object. -/
def told : Object → List (Ref .world)
  | list _ elements => shownByAll realm elements
  | _ => []

end

variable (h : Hierarchy) (f : Disguise) (realm : Realm)

theorem forall_shownByAll_cons {p : Ref .world → Prop} {v : Value} {vs : List Value} :
    (∀ r ∈ shownByAll realm (v :: vs), p r) ↔
      (∀ r ∈ shownByValue realm v, p r) ∧ ∀ r ∈ shownByAll realm vs, p r := by
  rw [shownByAll]
  exact List.forall_mem_append

mutual

/-- The description of an object tells what those of the worlds in it do. -/
theorem describe_tells (o : Object) :
    Tells (∀ r ∈ o.shown realm, realm.Keeps f r) (o.describe h realm)
      (o.describe h (realm.disguised f)) := by
  cases o with
  | value | player | mob | inventory | stack =>
    rw [describe, describe]
    exact .refl (by simp [shown]) _
  | world r =>
    rw [describe, describe]
    exact (Realm.describe_world_tells f realm r).congr (by simp [shown])
  | server r =>
    -- A server describes its worlds, if it is there at all.
    rw [describe, describe, shown, Realm.worldsOf,
      show (realm.disguised f).servers = realm.servers from rfl]
    cases realm.servers.get? r with
    | none =>
      simp only [Option.map_none, Option.getD_none]
      exact .refl (by simp) _
    | some s =>
      simp only [Option.map_some, Option.getD_some]
      exact Realm.describeServer_tells f realm s
  | list tag elements =>
    rw [describe, describe, shown]
    exact ((describeAll_tells elements).bracketed.append_left _).append_right _

theorem describeAll_tells (vs : List Value) :
    Tells (∀ r ∈ shownByAll realm vs, realm.Keeps f r) (", ".intercalate (describeAll h realm vs))
      (", ".intercalate (describeAll h (realm.disguised f) vs)) := by
  match vs with
  | [] => exact .refl (by simp [shownByAll]) _
  | [v] =>
    rw [describeAll, describeAll, describeAll, describeAll, String.intercalate_singleton,
      String.intercalate_singleton]
    exact (describeValue_tells v).congr (by simp [shownByAll])
  | v :: w :: vs =>
    have hvs := describeAll_tells (w :: vs)
    rw [describeAll, describeAll] at hvs
    rw [describeAll, describeAll, describeAll, describeAll, String.intercalate_cons_cons,
      String.intercalate_cons_cons]
    exact (((describeValue_tells v).append_right ", ").append hvs).congr
      (forall_shownByAll_cons realm).symm

theorem describeValue_tells (v : Value) :
    Tells (∀ r ∈ shownByValue realm v, realm.Keeps f r) (describeValue h realm v)
      (describeValue h (realm.disguised f) v) := by
  match v with
  | none => exact .refl (by simp [shownByValue]) _
  | some o =>
    rw [describeValue, describeValue, shownByValue]
    exact ((describe_tells o).append_left _).append_right _

end

theorem text_world_disguised (r : Ref .world) :
    (Object.world r).text h (realm.disguised f) = (Object.world r).text h realm :=
  congrArg (Option.getD · _) (Realm.map_get?_disguised f realm (fun _ _ => rfl) r)

theorem text_value_disguised (tag : Nat) (d : Datum) :
    (Object.value tag d).text h (realm.disguised f) = (Object.value tag d).text h realm := by
  cases d with
  | location l => exact Realm.locationText_disguised f realm l
  | block b => exact Realm.blockText_disguised f realm b
  | scalar | array | constant | classRef | hosted => rfl

/-- The text of an object tells what the descriptions of worlds in it do, and there are none of
    these unless the object is a list. -/
theorem text_tells (o : Object) :
    Tells (∀ r ∈ o.told realm, realm.Keeps f r) (o.text h realm)
      (o.text h (realm.disguised f)) := by
  cases o with
  | list tag elements => exact describe_tells h f realm (.list tag elements)
  | world r => exact .of_eq (fun _ hr => by cases hr) (text_world_disguised h f realm r).symm
  | value tag d => exact .of_eq (fun _ hr => by cases hr) (text_value_disguised h f realm tag d).symm
  | server | player | mob | inventory | stack => exact .refl (fun _ hr => by cases hr) _

/-- The text of an object is the same in disguise exactly if the worlds described in it are. -/
theorem text_disguised_iff (o : Object) :
    o.text h (realm.disguised f) = o.text h realm ↔ ∀ r ∈ o.told realm, realm.Keeps f r := by
  rw [eq_comm]
  exact (text_tells h f realm o).eq_iff

/-- Only lists tell of worlds. -/
theorem text_disguised {o : Object} (ho : ∀ tag elements, o ≠ list tag elements) :
    o.text h (realm.disguised f) = o.text h realm := by
  refine (text_disguised_iff h f realm o).2 fun r hr => ?_
  cases o with
  | list tag elements => exact absurd rfl (ho tag elements)
  | value | server | world | player | mob | inventory | stack => cases hr

end Object

end Chainwalk
