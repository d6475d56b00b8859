import Chainwalk.Proofs.Inventory.Packing
import Chainwalk.Proofs.Inventory.Standing
import Chainwalk.Proofs.Snapshot.Acceptance

/-!
# The items of players who are loaded

A snapshot lists the items of its players, and loading adds them to the empty inventory of each
player, lot after lot. What does not fit is lost without a word. Because packing is tight, nothing is
lost of what could be packed in any way into so many slots, and the order of the lots does not matter.

* `Realm.bags`, `Realm.carried`: the inventories of players, and what they hold;
* `Realm.KeepsBags`: the actions that leave all of it alone;
* `Snapshot.Packed`: the inventories of all players hold their packed items;
* `Snapshot.items_fit_iff`: when all items fit, and when a player gets all of them.
-/

namespace Chainwalk

namespace Realm

/-- The inventories of the players of a server. -/
def bags (realm : Realm) (s : Ref .server) : List (Ref .inventory) :=
  (realm.onlinePlayers s).map Player.inventory

/-- What the slots of an inventory hold. -/
def carried (realm : Realm) (r : Ref .inventory) : Option (List (Option ItemStack)) :=
  (realm.inventories.get? r).map fun i => Inventory.held i.slots realm.itemStacks

variable {a b : Realm} {s : Ref .server} {r q : Ref .inventory} {i : Inventory} {v : Server}

/-! ## What leaves items alone -/

/-- From one realm to the other the inventories of players stay, and all that is in inventories. -/
structure KeepsBags (a b : Realm) : Prop where
  bags : ∀ s, b.bags s = a.bags s
  inventories : b.inventories = a.inventories
  itemStacks : b.itemStacks = a.itemStacks

instance : IsPreorder Realm KeepsBags where
  refl _ := ⟨fun _ => rfl, rfl, rfl⟩
  trans _ _ _ hab hbc := ⟨fun s => (hbc.bags s).trans (hab.bags s),
    hbc.inventories.trans hab.inventories, hbc.itemStacks.trans hab.itemStacks⟩

theorem KeepsBags.carried (h : KeepsBags a b) : b.carried = a.carried := by
  funext r
  rw [Realm.carried, Realm.carried, h.inventories, h.itemStacks]

theorem keepsBags_modifyServer (s : Ref .server) {f : Server → Server}
    (hf : ∀ v, (f v).players = v.players) : Along KeepsBags (modifyServer s f) := by
  refine fun a => ⟨fun q => ?_, rfl, rfl⟩
  have hplayers : (modifyServer s f a).2.playersOf q = a.playersOf q :=
    congrArg (Option.getD · []) (Table.map_get?_modify hf a.servers s q)
  rw [Realm.bags, onlinePlayers, hplayers]
  rfl

theorem keepsBags_modifyWorld (r : Ref .world) (f : World → World) :
    Along KeepsBags (modifyWorld r f) :=
  fun _ => ⟨fun _ => rfl, rfl, rfl⟩

theorem keepsBags_modifyPlayer (r : Ref .player) {f : Player → Player}
    (hf : ∀ p, (f p).inventory = p.inventory) : Along KeepsBags (modifyPlayer r f) :=
  fun _ => ⟨fun _ => Table.map_filterMap_get?_modify hf r, rfl, rfl⟩

theorem keepsBags_createWorld (s : Ref .server) (name : String) (seed : UInt64) :
    Along KeepsBags (createWorld s name seed) := by
  have hnew : Along KeepsBags (newWorld (.make name seed (some s))) :=
    fun _ => ⟨fun _ => rfl, rfl, rfl⟩
  exact .get_bind fun _ => .guard _ <| hnew.bind fun _ =>
    (keepsBags_modifyServer s (by exact fun _ => rfl)).bind fun _ => .pure _

theorem keepsBags_setBlock (r : Ref .world) (p : BlockPos) (m : Material) :
    Along KeepsBags (setBlock r p m) :=
  .guard _ (.guard _ (keepsBags_modifyWorld r _))

theorem keepsBags_spawnMob (r : Ref .world) (kind : MobType) (l : Location) :
    Along KeepsBags (spawnMob r kind l) :=
  along_spawnMob r kind l (fun s _ => keepsBags_modifyServer s (by exact fun _ => rfl))
    (fun _ _ => ⟨fun _ => rfl, rfl, rfl⟩) fun _ => keepsBags_modifyWorld r _

/-! ## What changes items -/

theorem Orderly.tidy (h : a.Orderly) (hi : a.inventories.get? r = some i) :
    Inventory.Tidy i.slots a.itemStacks :=
  ⟨h.present_of_mem hi, h.apart_slots hi⟩

/-- A realm stays orderly where no stack comes into a slot. -/
theorem Orderly.of_stands (h : a.Orderly) (hs : b.itemStacks = a.itemStacks)
    (hstands : ∀ ref r k, b.Stands ref r k → a.Stands ref r k) : b.Orderly where
  inBounds := hs ▸ h.inBounds
  present ref r k hk := hs ▸ h.present ref r k (hstands ref r k hk)
  apart ref r k r' k' hk hk' := h.apart ref r k r' k' (hstands ref r k hk) (hstands ref r' k' hk')

theorem carried_eq_none_of_next (a : Realm) : a.carried a.inventories.next = none := by
  rw [carried, Table.get?_next, Option.map_none]

/-- A player comes with an empty inventory. -/
theorem carried_withPlayer (a : Realm) (s : Ref .server) (p : Player) :
    (a.withPlayer s p).carried r =
      if r = a.inventories.next then some (List.replicate inventorySize none) else a.carried r := by
  rw [carried, withPlayer, Table.get?_insert]
  split
  · exact congrArg some (Inventory.held_empty a.itemStacks)
  · rfl

theorem Orderly.withPlayer (h : a.Orderly) (p : Player) : (a.withPlayer s p).Orderly := by
  refine h.of_stands rfl fun ref r k ⟨i, hi, hk⟩ => ?_
  rw [Realm.withPlayer, Table.get?_insert] at hi
  split at hi
  · obtain rfl := Option.some.inj hi
    cases List.eq_of_mem_replicate (List.mem_of_getElem? hk)
  · exact ⟨i, hi, hk⟩

/-- The realm with items added to an inventory. -/
def withLotIn (realm : Realm) (r : Ref .inventory) (i : Inventory) (m : Material) (n : UInt8) :
    Realm :=
  realm.arranged r (fun _ => (i.add m n realm.itemStacks).1) (i.add m n realm.itemStacks).2.2

theorem run_addItems (hi : a.inventories.get? r = some i) (m : Material) (n : UInt8) :
    addItems r m n a = (.ok (i.add m n a.itemStacks).2.1, a.withLotIn r i m n) := by
  rw [addItems, bind_apply, run_getInventory, hi]
  rfl

theorem Orderly.withLotIn (h : a.Orderly) (hi : a.inventories.get? r = some i) (m : Material)
    (n : UInt8) : (a.withLotIn r i m n).Orderly := by
  have hkeeps := (keepsStock_addItems r m n a h).1
  rwa [run_addItems hi] at hkeeps

/-- Items come into one inventory, and no other one changes what it holds. -/
theorem Orderly.carried_withLotIn (h : a.Orderly) (hi : a.inventories.get? r = some i)
    (m : Material) (n : UInt8) (q : Ref .inventory) :
    (a.withLotIn r i m n).carried q =
      if q = r then some (Inventory.added m (Inventory.held i.slots a.itemStacks) n.toNat)
      else a.carried q := by
  rw [carried, Realm.withLotIn, arranged, Table.get?_modify]
  split
  · rename_i heq
    rw [heq, hi]
    exact congrArg some (Inventory.held_add m (h.tidy hi)).1
  · rename_i hne
    rw [carried]
    rcases hj : a.inventories.get? q with _ | j
    · rfl
    · refine congrArg some (Inventory.held_congr fun ref href => ?_)
      obtain ⟨t, ht⟩ := Option.isSome_iff_exists.1 (h.present_of_mem hj ref href)
      -- A stack stands in one slot only, and it stands in one of the other inventory.
      have hout : some ref ∉ i.slots := by
        intro hin
        obtain ⟨k, hk⟩ := List.mem_iff_getElem?.1 href
        obtain ⟨k', hk'⟩ := List.mem_iff_getElem?.1 hin
        exact hne (h.apart ref q k r k' ⟨j, hj, hk⟩ ⟨i, hi, hk'⟩).1
      rw [ht]
      exact (Inventory.rearranges_add m (h.present_of_mem hi)).elsewhere ref hout t ht

end Realm

/-- What the slots of an inventory that was empty hold of the items of a player. -/
def PlayerSpec.packed (p : PlayerSpec) : List (Option ItemStack) :=
  Inventory.packed (List.replicate inventorySize none) p.items

namespace Snapshot

open Realm

variable {x : Snapshot} {s : Ref .server} {a b : Realm} {joined : Ref .player}
  {i : Ref .inventory} {lots : List ItemSpec}

/-- The inventories of all players hold the items that the snapshot lists, packed. -/
def Packed (x : Snapshot) (s : Ref .server) (realm : Realm) : Prop :=
  realm.Orderly ∧ (realm.bags s).map realm.carried = x.players.map fun p => some p.packed

theorem packed_started (o : Ref .world → BlockOrder) (name : String) (n : UInt32) :
    Packed ⟨name, n, [], []⟩ ⟨0⟩ (started o name n) := by
  refine ⟨⟨fun ref t ht => ?_, fun ref r k ⟨i, hi, _⟩ => ?_, fun ref r k _ _ ⟨i, hi, _⟩ => ?_⟩, rfl⟩
  · exact absurd (ht.symm.trans (Table.get?_empty ref)) (Option.some_ne_none t)
  all_goals exact absurd (hi.symm.trans (Table.get?_empty r)) (Option.some_ne_none i)

/-! ## Worlds -/

theorem keepsBags_loadWorld (s : Ref .server) (w : WorldSpec) :
    Along KeepsBags (loadWorld s w) := by
  refine (keepsBags_createWorld s _ _).bind fun r => (keepsBags_modifyWorld r _).bind fun _ =>
    (Along.forM (fun f => ?_) _).bind fun _ => .forM (fun m => ?_) _
  · exact along_loadFill fun p => keepsBags_setBlock r p f.material
  · exact (keepsBags_spawnMob r _ _).bind fun _ => .pure _

theorem leads_loadWorld_packed (w : WorldSpec) :
    Leads (x.Packed s) (loadWorld s w) fun _ => (x.addWorld w).Packed s := by
  rintro a _ b ⟨horderly, hbags⟩ hrun
  have hkeeps := keepsBags_loadWorld s w a
  rw [hrun] at hkeeps
  refine ⟨horderly.of_stands hkeeps.itemStacks fun ref r k ⟨i, hi, hk⟩ => ⟨i, ?_, hk⟩, ?_⟩
  · rw [← hi, hkeeps.inventories]
  · rw [hkeeps.bags, hkeeps.carried]
    exact hbags

/-! ## Players -/

/-- A player has come last to a server, and some lots of items have been added to the inventory. -/
structure Equips (x : Snapshot) (s : Ref .server) (joined : Ref .player) (i : Ref .inventory)
    (lots : List ItemSpec) (b : Realm) : Prop where
  orderly : b.Orderly
  bags : ∃ before, b.bags s = before ++ [i] ∧ i ∉ before ∧
    before.map b.carried = x.players.map fun p => some p.packed
  owner : (b.players.get? joined).map Player.inventory = some i
  carried : b.carried i = some (Inventory.packed (List.replicate inventorySize none) lots)

theorem Equips.packed {p : PlayerSpec} (h : Equips x s joined i p.items b) :
    (x.addPlayer p).Packed s b := by
  obtain ⟨before, hbags, -, hbefore⟩ := h.bags
  refine ⟨h.orderly, ?_⟩
  rw [hbags, List.map_append, List.map_singleton, hbefore, h.carried, Snapshot.addPlayer,
    List.map_append, List.map_singleton, PlayerSpec.packed]

theorem leads_join (h : x.Packed s a) (hpeopled : a.Peopled s) (name : String) (l : Location) :
    Leads (· = a) (join s name l)
      fun joined => Equips x s joined a.inventories.next [] := by
  obtain ⟨v, hv⟩ := Option.isSome_iff_exists.1 hpeopled.server
  obtain ⟨horderly, hbags⟩ := h
  intro c joined b hc hrun
  rw [hc, run_join name l hv] at hrun
  split at hrun
  · cases (Prod.mk.inj hrun).1
  · split at hrun
    · cases (Prod.mk.inj hrun).1
    · obtain ⟨hjoined, rfl⟩ := Prod.mk.inj hrun
      obtain rfl := Except.ok.inj hjoined
      let p : Player := .make v.nextEntityId name l a.inventories.next
      have honline := (hpeopled.withNumber (v.nextEntityId + 1)).onlinePlayers_withPlayer p
        (get?_withNumber hv _)
      rw [onlinePlayers_withNumber] at honline
      have hnumbered : (a.withNumber s (v.nextEntityId + 1)).Orderly :=
        horderly.of_stands rfl fun _ _ _ => id
      -- Nothing is carried in the inventory to come, but something in those of all players.
      have hnew : a.inventories.next ∉ a.bags s := by
        intro hin
        have hnone := List.mem_map_of_mem (f := a.carried) hin
        rw [hbags, carried_eq_none_of_next] at hnone
        obtain ⟨q, -, hq⟩ := List.mem_map.1 hnone
        cases hq
      refine ⟨hnumbered.withPlayer p, ⟨a.bags s, ?bags, hnew, ?before⟩,
        congrArg (Option.map Player.inventory) (Table.get?_insert_self a.players p), ?carried⟩
      case bags =>
        rw [Realm.bags, honline, List.map_append]
        rfl
      case before =>
        rw [← hbags]
        refine List.map_congr_left fun q hq => ?_
        have hold : q ≠ a.inventories.next := fun heq => hnew (heq ▸ hq)
        exact (carried_withPlayer _ s p).trans (if_neg hold)
      case carried => exact (carried_withPlayer _ s p).trans (if_pos rfl)

theorem leads_modifyPlayer {f : Player → Player} (hf : ∀ p, (f p).inventory = p.inventory) :
    Leads (Equips x s joined i lots) (modifyPlayer joined f) fun _ => Equips x s joined i lots := by
  rintro b _ _ h ⟨⟩
  have hkeeps := keepsBags_modifyPlayer joined hf b
  obtain ⟨before, hbags, hnew, hbefore⟩ := h.bags
  exact ⟨h.orderly.of_stands rfl fun _ _ _ => id,
    ⟨before, (hkeeps.bags s).trans hbags, hnew, hbefore⟩,
    (Table.map_get?_modify hf b.players joined joined).trans h.owner, h.carried⟩

theorem leads_getPlayer :
    Leads (Equips x s joined i lots) (getPlayer joined) fun player b =>
      player.inventory = i ∧ Equips x s joined i lots b := by
  intro b player c h hrun
  obtain ⟨p, hp, hi⟩ := Option.map_eq_some_iff.1 h.owner
  rw [getPlayer_eq hp] at hrun
  obtain ⟨heq, rfl⟩ := Prod.mk.inj hrun
  exact ⟨Except.ok.inj heq ▸ hi, h⟩

theorem leads_addItems (m : Material) (n : UInt8) :
    Leads (Equips x s joined i lots) (addItems i m n)
      fun _ => Equips x s joined i (lots ++ [⟨m, n⟩]) := by
  intro b _ c h hrun
  obtain ⟨inventory, hi, hheld⟩ := Option.map_eq_some_iff.1 h.carried
  obtain ⟨before, hbags, hnew, hbefore⟩ := h.bags
  have hcarried := h.orderly.carried_withLotIn hi m n
  rw [run_addItems hi] at hrun
  obtain ⟨-, rfl⟩ := Prod.mk.inj hrun
  refine ⟨h.orderly.withLotIn hi m n, ⟨before, hbags, hnew, ?_⟩, h.owner, ?_⟩
  · rw [← hbefore]
    refine List.map_congr_left fun q hq => ?_
    have hother : q ≠ i := fun heq => hnew (heq ▸ hq)
    rw [hcarried, if_neg hother]
  · rw [hcarried, if_pos rfl, hheld, Inventory.packed, Inventory.packed, List.foldl_append]
    rfl

theorem leads_addEach (items : List ItemSpec) :
    Leads (Equips x s joined i [])
      (items.forM fun item => do let _ ← addItems i item.material item.count)
      fun _ => Equips x s joined i items :=
  .forM (I := fun lots => Equips x s joined i lots)
    (fun _ item => (leads_addItems item.material item.count).bind fun _ => .pure fun _ => id)
    [] items

theorem leads_loadPlayer_packed (p : PlayerSpec) :
    Leads (fun a => Loaded x s a ∧ x.Packed s a) (loadPlayer s p)
      fun _ => (x.addPlayer p).Packed s := by
  refine .get_bind fun a ⟨⟨_, hshows⟩, h⟩ => ?_
  dsimp only
  split
  · exact .throw _
  · refine (leads_join h hshows.order.peopled _ _).bind fun joined =>
      (leads_modifyPlayer (by exact fun _ => rfl)).bind fun _ =>
        leads_getPlayer.bind fun player => ?_
    intro b _ c ⟨hi, hequips⟩ hrun
    rw [hi] at hrun
    exact (leads_addEach p.items b _ c hequips hrun).packed

/-! ## Snapshots -/

theorem packed_load {o : Ref .world → BlockOrder} {realm : Realm}
    (hrun : x.load (.ordered o) = (.ok s, realm)) : x.Packed s realm := by
  have hload := checks_load_keeping (J := Packed) (packed_started o)
    (fun _ _ w _ => (leads_loadWorld_packed w).mono fun _ h => h.2)
    (fun _ _ p => leads_loadPlayer_packed p) x (.ordered o) rfl
  rw [hrun] at hload
  exact hload.2.2

/-- Packing is tight. Lots of items that are added to an empty inventory, in whatever order, are
    taken completely exactly if there are slots enough for all of them, with full stacks but for one
    of each material; then all items are there, and they take no more slots than that. So a player
    who is loaded gets all items of the snapshot exactly if there are slots enough for them. -/
theorem items_fit_iff :
    (∀ (table : Stacks) (lots order : List ItemSpec), order.Perm lots →
      ((∀ left ∈ (Inventory.empty.addEach table order).2.1, left = 0) ↔
        Inventory.slotsFor (Inventory.total lots) ≤ inventorySize) ∧
      (Inventory.slotsFor (Inventory.total lots) ≤ inventorySize →
        (∀ m, ((Inventory.empty.addEach table order).1.count m
          (Inventory.empty.addEach table order).2.2).toNat = Inventory.total lots m) ∧
        (Inventory.empty.addEach table order).1.contents.length =
          Inventory.slotsFor (Inventory.total lots))) ∧
    ∀ (x : Snapshot) (o : Ref .world → BlockOrder) (s : Ref .server) (realm : Realm),
      x.load (.ordered o) = (.ok s, realm) →
      List.Forall₂ (fun (spec : PlayerSpec) (player : Player) =>
        ∃ i, realm.inventories.get? player.inventory = some i ∧
          ∀ order : List ItemSpec, order.Perm spec.items →
            ((∀ m, (i.count m realm.itemStacks).toNat = Inventory.total order m) ↔
              Inventory.slotsFor (Inventory.total order) ≤ inventorySize))
        x.players (realm.onlinePlayers s) := by
  refine ⟨fun table lots order hperm => ?added, fun x o s realm hrun => ?loaded⟩
  case added =>
    obtain ⟨htidy, hheld, hlefts⟩ := Inventory.held_addEach (Inventory.tidy_empty table) order
    rw [Inventory.held_empty] at hheld hlefts
    obtain ⟨hall, hslots⟩ := Inventory.held_packed htidy order hheld
    have hfit := (Inventory.Tight.empty inventorySize).allFit_iff order
    simp only [Inventory.items_replicate_none, Nat.zero_add, List.length_replicate] at hfit
    rw [← Inventory.total_perm hperm]
    exact ⟨hlefts.trans hfit, fun hle => ⟨hall.2 hle, hslots hle⟩⟩
  case loaded =>
    obtain ⟨horderly, hbags⟩ := packed_load hrun
    rw [Realm.bags, List.map_map, eq_comm, ← List.forall₂_eq_eq_eq, List.forall₂_map_left_iff,
      List.forall₂_map_right_iff] at hbags
    refine hbags.imp fun spec player hplayer => ?_
    obtain ⟨i, hi, hheld⟩ := Option.map_eq_some_iff.1 hplayer.symm
    refine ⟨i, hi, fun order hperm => ?_⟩
    rw [Inventory.total_perm hperm]
    exact (Inventory.held_packed (horderly.tidy hi) spec.items hheld).1

/-- Two lots of one material with another in between, and the players of the snapshot that is always
    there. -/
theorem items_fit_iff_sample :
    let lots : List ItemSpec := [⟨.enderPearl, 16⟩, ⟨.stone, 100⟩, ⟨.enderPearl, 10⟩]
    let order : List ItemSpec := [⟨.enderPearl, 10⟩, ⟨.stone, 100⟩, ⟨.enderPearl, 16⟩]
    order.Perm lots ∧
      (∀ left ∈ (Inventory.empty.addEach .empty order).2.1, left = 0) ∧
      (Inventory.empty.addEach .empty order).1.contents.length = 4 ∧
      ∃ s realm, sample.load Realm.empty = (.ok s, realm) ∧
        List.Forall₂ (fun (spec : PlayerSpec) (player : Player) =>
          ∃ i, realm.inventories.get? player.inventory = some i ∧
            ∀ m, (i.count m realm.itemStacks).toNat = Inventory.total spec.items m)
          sample.players (realm.onlinePlayers s) := by
  intro lots order
  obtain ⟨hadded, hloaded⟩ := items_fit_iff
  have hperm : order.Perm lots := List.reverse_perm lots
  obtain ⟨hlefts, hslots⟩ := hadded .empty lots order hperm
  have hfour : Inventory.slotsFor (Inventory.total lots) = 4 := by decide +kernel
  have hle : Inventory.slotsFor (Inventory.total lots) ≤ inventorySize := by decide +kernel
  have hconsistent : sample.Consistent := by decide +kernel
  obtain ⟨s, realm, hrun⟩ := hconsistent.exists_load fun _ => .sorted
  refine ⟨hperm, hlefts.2 hle, (hslots hle).2.trans hfour, s, realm, hrun, ?_⟩
  have henough : ∀ spec ∈ sample.players,
      Inventory.slotsFor (Inventory.total spec.items) ≤ inventorySize := by decide +kernel
  have hplayers := (List.forall₂_and_left _ _).2 ⟨henough, hloaded sample _ s realm hrun⟩
  refine hplayers.imp fun spec player ⟨hle, i, hi, hiff⟩ => ⟨i, hi, ?_⟩
  exact (hiff spec.items (.refl _)).2 hle

end Snapshot

end Chainwalk
