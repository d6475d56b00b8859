import Chainwalk.Proofs.Number.Decimal
import Chainwalk.Proofs.Registry.Shipped
import Chainwalk.Proofs.Residents.Arrivals
import Chainwalk.Proofs.Text.Spelling

/-!
# Addresses of residents

Whoever is on a server can be named in a literal: an entity by its number after the sign `#`, a
player and a world by any spelling of its name. Names and numbers are different on a server in
order, so what is found by one is the resident that has it, in whatever list it stands and whichever
handler looks for it.

* `find?_eq_some_of_pairwise`: what has the key is found if keys are different;
* `Realm.world?_eq_of_pairwise`, `Realm.WellKept.player?_eq`, `Realm.Numbered.entityById?_eq`: look-up
  by name and by number;
* `Registry.addresses_after`: the literals of those on a server, for every sender.
-/

namespace Chainwalk

/-- Where keys are different, an entry is found by its key. -/
theorem find?_eq_some_of_pairwise {κ α β : Type} {rs : List κ} {get : κ → Option α} {f : α → β}
    {p : α → Bool} {r : κ} {a : α}
    (hkeys : (rs.filterMap get).Pairwise fun a b => f a ≠ f b) (hr : r ∈ rs)
    (ha : get r = some a) (hp : ∀ b, p b ↔ f b = f a) :
    rs.find? (fun r => (get r).any p) = some r := by
  induction rs with
  | nil => cases hr
  | cons q rs ih =>
    rcases hq : get q with _ | b
    case none =>
      have hne : r ≠ q := by
        rintro rfl
        rw [ha] at hq
        cases hq
      rw [List.filterMap_cons_none hq] at hkeys
      rw [List.find?_cons_of_neg (by simp [hq])]
      exact ih hkeys ((List.mem_cons.1 hr).resolve_left hne)
    case some =>
      rw [List.filterMap_cons_some hq, List.pairwise_cons] at hkeys
      rcases List.mem_cons.1 hr with rfl | hr
      · obtain rfl := Option.some.inj (ha.symm.trans hq)
        exact List.find?_cons_of_pos (by simp [ha, hp])
      · -- The first entry has another key than the one that is looked for.
        have hne := hkeys.1 a (List.mem_filterMap.2 ⟨r, hr, ha⟩)
        rw [List.find?_cons_of_neg (by simp [hq, hp, hne])]
        exact ih hkeys.2 hr

/-! ## Words -/

namespace Entity

variable (x : Entity)

/-- The word for an entity that has its number. -/
def numberWord : String := "#" ++ toString x.id.toNat

theorem toList_numberWord : x.numberWord.toList = '#' :: (toString x.id.toNat).toList := by
  rw [numberWord, String.toList_append]
  rfl

theorem numberWord_ne_nullToken : x.numberWord ≠ Registry.nullToken := by
  intro heq
  have hlist := congrArg String.toList heq
  rw [toList_numberWord] at hlist
  exact absurd (List.head_eq_of_cons_eq hlist) (by decide)

theorem trim_numberWord : Text.trim x.numberWord = x.numberWord := by
  have hblank : ∀ c ∈ x.numberWord.toList, ¬Text.isBlank c := by
    rw [toList_numberWord, List.forall_mem_cons]
    exact ⟨by decide, fun c hc => Text.not_isBlank_of_isDigit (isDigit_of_mem_repr hc)⟩
  rw [Text.trim, Text.trimmed_of_forall hblank, String.ofList_toList]

end Entity

/-! ## Look-up -/

namespace Realm

variable {a : Realm} {s : Ref .server}

theorem world?_eq_of_pairwise
    (hkeys : (a.loadedWorlds s).Pairwise fun w w' => ¬Text.sameIgnoringCase w.name w'.name)
    {r : Ref .world} {w : World} {name : String} (hr : r ∈ a.worldsOf s)
    (hw : a.worlds.get? r = some w) (hname : Text.sameIgnoringCase name w.name) :
    a.world? s name = some r := by
  simp only [Text.sameIgnoringCase_iff] at hkeys hname
  refine find?_eq_some_of_pairwise (f := fun w : World => Text.lowerAscii w.name) hkeys hr hw
    fun w' => ?_
  rw [Text.sameIgnoringCase_iff, hname]

theorem WellKept.player?_eq (h : a.WellKept s) {p : Ref .player} {x : Player} {name : String}
    (hp : p ∈ a.playersOf s) (hx : a.players.get? p = some x)
    (hname : Text.sameIgnoringCase name x.base.name) : a.player? s name = some p := by
  have hkeys := h.players
  simp only [Text.sameIgnoringCase_iff] at hkeys hname
  refine find?_eq_some_of_pairwise (f := fun x : Player => Text.lowerAscii x.base.name) hkeys hp hx
    fun x' => ?_
  rw [Text.sameIgnoringCase_iff, hname]

/-- An entity is looked for among the players, and then among the mobs. -/
theorem entityById?_eq (a : Realm) (s : Ref .server) (id : UInt32) :
    a.entityById? s id = (a.inhabitants s).find? fun e => (a.entity? e).any (·.id = id) :=
  List.find?_append.symm

theorem Numbered.entityById?_eq (h : a.Numbered s) {e : EntityRef} {x : Entity}
    (he : e ∈ a.inhabitants s) (hx : a.entity? e = some x) : a.entityById? s x.id = some e := by
  rw [Realm.entityById?_eq]
  refine find?_eq_some_of_pairwise (f := Entity.id) (List.pairwise_map.1 h.nodup) he hx
    fun x' => ?_
  exact decide_eq_true_iff

theorem Numbered.entityNamed?_numberWord (h : a.Numbered s) {e : EntityRef} {x : Entity}
    (he : e ∈ a.inhabitants s) (hx : a.entity? e = some x) :
    a.entityNamed? s x.numberWord = some e := by
  have hword : Text.afterFirst '#' x.numberWord = some (toString x.id.toNat) := by
    rw [Text.afterFirst, x.toList_numberWord]
    exact congrArg some String.ofList_toList
  have hread : (IntegerWidth.unsigned 32).read (toString x.id.toNat) = .ok x.id.toNat := by
    refine IntegerWidth.read_toString (n := x.id.toNat) (Int.natCast_nonneg _) ?_
    have := x.id.toNat_lt
    change (x.id.toNat : Int) ≤ 4294967295
    omega
  rw [entityNamed?, hword]
  dsimp only
  rw [hread]
  dsimp only
  rw [Int.toNat_natCast, UInt32.ofNat_toNat]
  exact h.entityById?_eq he hx

/-- A word that does not begin with the sign is a name. -/
theorem WellKept.entityNamed?_name (h : a.WellKept s) {p : Ref .player} {x : Player}
    {name : String} (hp : p ∈ a.playersOf s) (hx : a.players.get? p = some x)
    (hname : Text.sameIgnoringCase name x.base.name) (hsign : Text.afterFirst '#' name = none) :
    a.entityNamed? s name = some (.player p) := by
  rw [entityNamed?, hsign]
  dsimp only
  rw [h.player?_eq hp hx hname]
  rfl

end Realm

/-! ## Literals -/

section

variable {h : Hierarchy} {sender : Option Sender} {nested : Class → String → Act Value}
  {s : Ref .server} {literal : String} {st : Store}

theorem Act.ask_apply {α : Type} (f : Realm → α) (st : Store) :
    Act.ask f st = (.ok (f st.realm), st) := rfl

theorem convert_worldInput {c : Class} {r : Ref .world}
    (hr : st.realm.world? s (Text.trim literal) = some r) :
    (worldInput s).convert h sender nested literal c st = (.ok (some (.world r)), st) := by
  simp only [worldInput]
  rw [bind_apply_of_ok (Act.ask_apply id st), id, hr]
  rfl

theorem convert_playerInput {c : Class} {p : Ref .player}
    (hp : st.realm.player? s (Text.trim literal) = some p) :
    (playerInput s).convert h sender nested literal c st = (.ok (some (.player p)), st) := by
  simp only [playerInput]
  rw [bind_apply_of_ok (Act.ask_apply _ st), hp]
  rfl

/-- An entity is handed out as what it is only. -/
theorem convert_entityInput {c : Class} {e : EntityRef}
    (he : st.realm.entityNamed? s (Text.trim literal) = some e) :
    (entityInput s).convert h sender nested literal c st =
      if h.isA (Object.ofEntity e).class_ c then (.ok (some (.ofEntity e)), st)
      else
        (.error (unreadable h literal c ("entity is a " ++ h.name (Object.ofEntity e).class_)),
          st) := by
  have hgiven (fault : Fault) : Act.orElse (some e) fault st = (.ok e, st) := rfl
  simp only [entityInput]
  rw [bind_apply_of_ok (Act.ask_apply _ st), he, bind_apply_of_ok (hgiven _)]
  cases h.isA (Object.ofEntity e).class_ c <;> rfl

end

namespace Registry

section

variable {h : Hierarchy} {s : Ref .server} {literal : String}

/-- A literal other than that for null is read by the handler of its class. -/
theorem shipped_attempt_of_inputFor? {server? : Option (Ref .server)} {c : Class}
    {i : InputHandler} (hi : (shipped server?).inputFor? h c = some i)
    (hnull : literal ≠ nullToken) (sender : Option Sender) :
    ∃ nested, (shipped server?).attempt h sender c literal =
      ExceptT.adapt ConversionFault.wrap (i.convert h sender nested literal c) := by
  rw [shipped_attempt_eq, if_neg hnull, hi]
  exact ⟨_, rfl⟩

theorem shipped_instantiate_of_inputFor? {server? : Option (Ref .server)} {c : Class}
    {i : InputHandler} (hi : (shipped server?).inputFor? h c = some i)
    (hnull : literal ≠ nullToken) (sender : Option Sender) (st : Store) :
    ∃ nested, (shipped server?).instantiate h sender c literal st =
      answerOf (i.convert h sender nested literal c st) := by
  obtain ⟨nested, hattempt⟩ := shipped_attempt_of_inputFor? hi hnull sender
  exact ⟨nested, by rw [instantiate, hattempt, answer_adapt_wrap]⟩

theorem inputFor?_shipped_world : (shipped (some s)).inputFor? h .world = some (worldInput s) :=
  inputFor?_of_registered? (by cbv)

theorem inputFor?_shipped_player :
    (shipped (some s)).inputFor? h .player = some (playerInput s) :=
  inputFor?_of_registered? (by cbv)

theorem inputFor?_shipped_entity :
    (shipped (some s)).inputFor? h .entity = some (entityInput s) :=
  inputFor?_of_registered? (by cbv)

/-- Mobs have no handler of their own. They are entities, and neither constants nor collections. -/
theorem inputFor?_shipped_mob : (shipped (some s)).inputFor? h .mob = some (entityInput s) := by
  have hnone : (shipped (some s)).registered? .mob = none := by cbv
  have hlist : (shipped (some s)).polymorphic =
      [enumerationInput, collectionInput, entityInput s] := by cbv
  let serves (i : InputHandler) : Bool := h.isA .mob i.relevant
  have henumeration : ¬serves enumerationInput := h.isA_builtins_iff.not.2 (by decide)
  have hcollection : ¬serves collectionInput := h.isA_builtins_iff.not.2 (by decide)
  have hentity : serves (entityInput s) := h.isA_builtins_iff.2 (by decide)
  rw [inputFor?, hnone, hlist, Option.none_or]
  change [enumerationInput, collectionInput, entityInput s].find? serves = _
  rw [List.find?_cons_of_neg henumeration, List.find?_cons_of_neg hcollection,
    List.find?_cons_of_pos hentity]

end

/-! ## Addresses -/

/-- A literal that is read as this object, for every sender. Nothing else happens by that. -/
def StandsFor (r : Registry) (h : Hierarchy) (st : Store) (c : Class) (literal : String)
    (o : Object) : Prop :=
  ∀ sender, r.instantiate h sender c literal st = .ok (some o, st)

/-- The literals for those on a server. -/
structure Addresses (r : Registry) (h : Hierarchy) (st : Store) (s : Ref .server) : Prop where
  numbers : ∀ e ∈ st.realm.inhabitants s, ∃ x, st.realm.entity? e = some x ∧
    r.StandsFor h st .entity x.numberWord (.ofEntity e)
  mobNumbers : ∀ m, EntityRef.mob m ∈ st.realm.inhabitants s → ∃ x, st.realm.mobs.get? m = some x ∧
    r.StandsFor h st .mob x.base.numberWord (.mob m)
  playerNumbers : ∀ p ∈ st.realm.playersOf s, ∃ x, st.realm.players.get? p = some x ∧
    ∀ sender, r.instantiate h sender .mob x.base.numberWord st =
      .error ⟨unreadable h x.base.numberWord .mob ("entity is a " ++ h.name .player)⟩
  playerNames : ∀ p ∈ st.realm.playersOf s, ∃ x, st.realm.players.get? p = some x ∧
    ∀ literal, Text.trim x.base.name = x.base.name → Text.Spells literal x.base.name →
      literal ≠ nullToken → r.StandsFor h st .player literal (.player p) ∧
        (Text.afterFirst '#' (Text.trim literal) = none →
          r.StandsFor h st .entity literal (.player p))
  worldNames : ∀ q ∈ st.realm.worldsOf s, ∃ w, st.realm.worlds.get? q = some w ∧
    ∀ literal, Text.trim w.name = w.name → Text.Spells literal w.name → literal ≠ nullToken →
      r.StandsFor h st .world literal (.world q)

section

variable {h : Hierarchy} {s : Ref .server} {st : Store} {literal : String}

theorem standsFor_world {q : Ref .world} (hnull : literal ≠ nullToken)
    (hq : st.realm.world? s (Text.trim literal) = some q) :
    (shipped (some s)).StandsFor h st .world literal (.world q) := by
  intro sender
  obtain ⟨nested, hread⟩ := shipped_instantiate_of_inputFor? (h := h) inputFor?_shipped_world
    hnull sender st
  rw [hread, convert_worldInput hq]
  rfl

theorem standsFor_player {p : Ref .player} (hnull : literal ≠ nullToken)
    (hp : st.realm.player? s (Text.trim literal) = some p) :
    (shipped (some s)).StandsFor h st .player literal (.player p) := by
  intro sender
  obtain ⟨nested, hread⟩ := shipped_instantiate_of_inputFor? (h := h) inputFor?_shipped_player
    hnull sender st
  rw [hread, convert_playerInput hp]
  rfl

/-- What is read by the handler of entities is an object of the class that was asked for. -/
theorem instantiate_entityNamed {c : Class} (sender : Option Sender) {e : EntityRef}
    (hc : (shipped (some s)).inputFor? h c = some (entityInput s)) (hnull : literal ≠ nullToken)
    (he : st.realm.entityNamed? s (Text.trim literal) = some e) :
    (shipped (some s)).instantiate h sender c literal st =
      if h.isA (Object.ofEntity e).class_ c then .ok (some (.ofEntity e), st)
      else
        .error ⟨unreadable h literal c ("entity is a " ++ h.name (Object.ofEntity e).class_)⟩ := by
  obtain ⟨nested, hread⟩ := shipped_instantiate_of_inputFor? hc hnull sender st
  rw [hread, convert_entityInput he]
  split <;> rfl

theorem standsFor_entity {e : EntityRef} (hnull : literal ≠ nullToken)
    (he : st.realm.entityNamed? s (Text.trim literal) = some e) :
    (shipped (some s)).StandsFor h st .entity literal (.ofEntity e) := by
  intro sender
  rw [instantiate_entityNamed sender inputFor?_shipped_entity hnull he,
    if_pos (Object.isA_ofEntity h e)]

end

/-- Whoever has come to a server, in whatever order, has literals of its own: an entity its number,
    and a player and a world all spellings of its name, as long as the numbers have not come
    round. -/
theorem addresses_after (h : Hierarchy) (o : Ref .world → BlockOrder) (name : String)
    (maxPlayers : UInt32) (arrivals : List Arrival) (st : Store)
    (hst : st.realm = (Snapshot.started o name maxPlayers).after ⟨0⟩ arrivals)
    (hcount : (st.realm.inhabitants ⟨0⟩).length < UInt32.size - 50000) :
    (shipped (some ⟨0⟩)).Addresses h st ⟨0⟩ := by
  have horder : st.realm.InOrder ⟨0⟩ :=
    hst ▸ (Realm.inOrder_started o name maxPlayers).after arrivals
  have hkept := horder.wellKept
  have hnumbered := horder.numbered (horder.peopled.length_entitiesOn.trans_lt hcount)
  have hfound {e : EntityRef} {x : Entity} (he : e ∈ st.realm.inhabitants ⟨0⟩)
      (hx : st.realm.entity? e = some x) :
      st.realm.entityNamed? ⟨0⟩ (Text.trim x.numberWord) = some e := by
    rw [x.trim_numberWord, hnumbered.entityNamed?_numberWord he hx]
  constructor
  case numbers =>
    intro e he
    obtain ⟨x, hx⟩ := Option.isSome_iff_exists.1 (horder.peopled.isSome_entity e he)
    exact ⟨x, hx, standsFor_entity x.numberWord_ne_nullToken (hfound he hx)⟩
  case mobNumbers =>
    intro m hm
    obtain ⟨y, hy⟩ := Option.isSome_iff_exists.1 (horder.peopled.isSome_entity _ hm)
    obtain ⟨x, hx, rfl⟩ := Option.map_eq_some_iff.1 hy
    refine ⟨x, hx, fun sender => ?_⟩
    rw [instantiate_entityNamed sender inputFor?_shipped_mob x.base.numberWord_ne_nullToken
      (hfound hm hy)]
    exact if_pos (h.isA_self _)
  case playerNumbers =>
    intro p hp
    obtain ⟨x, hx⟩ := Option.isSome_iff_exists.1 (horder.peopled.isSome_player p hp)
    have hy : st.realm.entity? (.player p) = some x.base := congrArg (Option.map _) hx
    refine ⟨x, hx, fun sender => ?_⟩
    rw [instantiate_entityNamed sender inputFor?_shipped_mob x.base.numberWord_ne_nullToken
      (hfound (Realm.player_mem_inhabitants.2 hp) hy)]
    exact if_neg (h.isA_builtins_iff.not.2 (by decide))
  case playerNames =>
    intro p hp
    obtain ⟨x, hx⟩ := Option.isSome_iff_exists.1 (horder.peopled.isSome_player p hp)
    refine ⟨x, hx, fun literal htrim hspells hnull => ?_⟩
    have hname := hspells.sameIgnoringCase_trim htrim
    exact ⟨standsFor_player hnull (hkept.player?_eq hp hx hname),
      fun hsign => standsFor_entity hnull (hkept.entityNamed?_name hp hx hname hsign)⟩
  case worldNames =>
    intro q hq
    obtain ⟨w, hw⟩ := Option.isSome_iff_exists.1 (horder.peopled.isSome_world q hq)
    refine ⟨w, hw, fun literal htrim hspells hnull => ?_⟩
    have hname := hspells.sameIgnoringCase_trim htrim
    exact standsFor_world hnull (Realm.world?_eq_of_pairwise hkept.worlds hq hw hname)

/-- A pig and a player come to a world. The player is found by another spelling of its name. -/
theorem addresses_after_hub :
    let place : Location := ⟨⟨0⟩, 0, 64, 0⟩
    let arrivals : List Arrival := [.world "hub" 1, .mob ⟨0⟩ .pig place, .player "eve" place]
    let realm := (Snapshot.started (fun _ => .sorted) "s" 1).after ⟨0⟩ arrivals
    let st := { Store.empty with realm }
    (st.realm.inhabitants ⟨0⟩).length < UInt32.size - 50000 ∧
      (shipped (some ⟨0⟩)).Addresses .builtins st ⟨0⟩ ∧
      (shipped (some ⟨0⟩)).StandsFor .builtins st .entity " EVE" (.player ⟨0⟩) := by
  intro place arrivals realm st
  have hcount : (st.realm.inhabitants ⟨0⟩).length < UInt32.size - 50000 := by decide +kernel
  have haddresses := addresses_after .builtins (fun _ => .sorted) "s" 1 arrivals st rfl hcount
  refine ⟨hcount, haddresses, ?_⟩
  have hmem : (⟨0⟩ : Ref .player) ∈ st.realm.playersOf ⟨0⟩ := by decide +kernel
  have hname : (st.realm.players.get? ⟨0⟩).map (·.base.name) = some "eve" := by decide +kernel
  obtain ⟨x, hx, hspellings⟩ := haddresses.playerNames ⟨0⟩ hmem
  rw [hx] at hname
  have hname : x.base.name = "eve" := Option.some.inj hname
  rw [hname] at hspellings
  have hspells : Text.Spells " EVE" "eve" :=
    ⟨" ", "EVE", "", by simp [Text.isBlank], by simp, by decide +kernel, by decide +kernel⟩
  exact (hspellings " EVE" (by decide +kernel) hspells (by decide)).2 (by decide +kernel)

end Registry

end Chainwalk
