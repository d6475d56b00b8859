import Chainwalk.Proofs.Conversion.RoundTrip
import Chainwalk.Proofs.Plugin.Targets
import Chainwalk.Proofs.Residents.Reached

/-!
# Literals of blocks

A block is given by the name of its world and three coordinates, with commas between them and blanks
around them as one likes. A coordinate is a number, or an offset from where the sender is. Without
the name, the world is the one where the sender is, or the first one of the server.

* `Coordinate.Written`, `Coordinate.Spelled`: how coordinates are written;
* `Coordinate.meant`, `BlockPos.Meant`: what they mean;
* `Sender.Embodies`: where the sender is;
* `splitPosition_named`, `splitPosition_unnamed`: the parts of a literal;
* `Registry.instantiate_block_eq`: a literal whose parts are known;
* `Registry.instantiate_block`: the literals of blocks, for every sender.
-/

namespace Chainwalk

/-! ## Coordinates -/

namespace Coordinate

/-- The words that are written for a coordinate: a number, a number after a tilde, or a tilde
    alone. -/
inductive Written : Coordinate Int32 → String → Prop
  | absolute (v : Int32) : Written (.absolute v) (toString v.toInt)
  | relative (d : Int32) : Written (.relative d) ("~" ++ toString d.toInt)
  | here : Written (.relative 0) "~"

/-- The literals of a coordinate: the words for it, with blanks around them. -/
def Spelled (x : Coordinate Int32) (literal : String) : Prop :=
  ∃ word, x.Written word ∧ Text.Pads literal word

/-- The number that a coordinate means, for a sender at `here`. An offset leads no further than the
    numbers go. -/
def meant (here : Int32) : Coordinate Int32 → Int
  | absolute v => v.toInt
  | relative d => max (-2 ^ 31) (min (2 ^ 31 - 1) (here.toInt + d.toInt))

variable {x : Coordinate Int32} {word : String}

theorem int?_toString (v : Int32) : int? (toString v.toInt) = some v := by
  have hread : (IntegerWidth.signed 32).read (toString v.toInt) = .ok v.toInt :=
    IntegerWidth.read_toString v.le_toInt (Int.le_sub_one_of_lt v.toInt_lt)
  rw [int?, hread]
  exact congrArg some v.ofInt_toInt

theorem toInt_resolve (here : Int32) (x : Coordinate Int32) :
    (x.resolve saturatingAdd here).toInt = x.meant here := by
  cases x with
  | absolute v => rfl
  | relative d =>
    have hleast : Int32.minValue.toInt = -2 ^ 31 := by decide
    have hgreatest : Int32.maxValue.toInt = 2 ^ 31 - 1 := by decide
    rw [resolve, saturatingAdd, meant, hleast, hgreatest]
    exact Int32.toInt_ofInt_of_le (by omega) (by omega)

theorem tilde_not_mem_toString (n : Int) : '~' ∉ (toString n).toList := by
  intro hmem
  rcases isDigit_or_eq_of_mem_toString hmem with hdigit | hminus
  · cases hdigit
  · cases hminus

theorem toList_tilde_append (s : String) : ("~" ++ s).toList = '~' :: s.toList :=
  String.toList_append

theorem Written.isElement (hx : x.Written word) : Text.IsElement word := by
  cases hx with
  | absolute v => exact Text.isElement_toString _
  | here =>
    have htilde : '~' ≠ ',' ∧ ¬Text.isBlank '~' := by decide
    exact Text.isElement_singleton_iff.2 htilde
  | relative d =>
    refine Text.isElement_of_forall (by simp) ?_
    rw [toList_tilde_append, List.forall_mem_cons]
    exact ⟨by decide, fun _ => Text.unbroken_of_mem_toString⟩

/-- What is written for a coordinate is read as it. -/
theorem Written.readInt_eq (hx : x.Written word) (h : Hierarchy) (c : Class) :
    readInt h c word = .ok x := by
  obtain ⟨-, -, htrim⟩ := hx.isElement
  rw [readInt, read, htrim]
  cases hx with
  -- A number begins with a digit or a minus sign, so it is not taken for an offset.
  | absolute v => rw [Text.afterFirst_eq_none (tilde_not_mem_toString _), int?_toString]
  | here => rfl
  | relative d =>
    have hrest : Text.afterFirst '~' ("~" ++ toString d.toInt) = some (toString d.toInt) := by
      rw [Text.afterFirst, toList_tilde_append]
      exact congrArg some String.ofList_toList
    have hne : (toString d.toInt).isEmpty = false :=
      String.isEmpty_eq_false_iff.2 (Text.isElement_toString d.toInt).1
    rw [hrest]
    dsimp only
    rw [hne, int?_toString]
    rfl

variable {literal : String}

theorem Spelled.written_trim (hx : x.Spelled literal) : x.Written (Text.trim literal) := by
  obtain ⟨word, hword, hpads⟩ := hx
  obtain ⟨-, -, htrim⟩ := hword.isElement
  rwa [hpads.trim_eq htrim]

theorem Spelled.not_mem (hx : x.Spelled literal) : ',' ∉ literal.toList := by
  obtain ⟨word, hword, hpads⟩ := hx
  obtain ⟨-, hcomma, -⟩ := hword.isElement
  exact hpads.not_mem (by decide) hcomma

end Coordinate

/-- The cell that three coordinates mean, for a sender at the cell `here`. -/
structure BlockPos.Meant (x y z : Coordinate Int32) (here p : BlockPos) : Prop where
  x : p.x.toInt = x.meant here.x
  y : p.y.toInt = y.meant here.y
  z : p.z.toInt = z.meant here.z

/-- That cell. -/
def BlockPos.resolved (x y z : Coordinate Int32) (here : BlockPos) : BlockPos :=
  ⟨x.resolve saturatingAdd here.x, y.resolve saturatingAdd here.y, z.resolve saturatingAdd here.z⟩

theorem BlockPos.meant_resolved (x y z : Coordinate Int32) (here : BlockPos) :
    Meant x y z here (resolved x y z here) :=
  ⟨x.toInt_resolve here.x, y.toInt_resolve here.y, z.toInt_resolve here.z⟩

/-- It does not matter where the sender is if no coordinate is relative. -/
theorem BlockPos.resolved_congr {x y z : Coordinate Int32}
    (habsolute : ∀ k ∈ [x, y, z], ¬k.isRelative) (a b : BlockPos) :
    resolved x y z a = resolved x y z b := by
  have hsame {k : Coordinate Int32} (hk : k ∈ [x, y, z]) (i j : Int32) :
      k.resolve saturatingAdd i = k.resolve saturatingAdd j := by
    cases k with
    | absolute v => rfl
    | relative d => exact absurd rfl (habsolute _ hk)
  rw [resolved, resolved, hsame (by simp) a.x b.x, hsame (by simp) a.y b.y,
    hsame (by simp) a.z b.z]

/-! ## The sender -/

/-- The sender stands for an entity that is there. -/
def Sender.Embodies (realm : Realm) (sender : Option Sender) (e : Entity) : Prop :=
  ∃ who r, sender = some who ∧ who.subject = some (.ofEntity r) ∧ realm.entity? r = some e

section

variable {h : Hierarchy} {realm : Realm} {sender : Option Sender} {l : Location} {e : Entity}

theorem Sender.location?_eq_some_iff :
    location? h realm sender = some l ↔ ∃ e, Embodies realm sender e ∧ e.location = l := by
  simp only [location?, Option.bind_eq_bind, Option.bind_eq_some_iff, Option.pure_def,
    Option.some.injEq, Embodies]
  constructor
  · rintro ⟨who, hwho, o, ho, r, hr, e, he, rfl⟩
    obtain rfl := Object.shows?_entity_iff.1 hr
    exact ⟨e, ⟨who, r, hwho, ho, he⟩, rfl⟩
  · rintro ⟨e, ⟨who, r, hwho, ho, he⟩, rfl⟩
    exact ⟨who, hwho, _, ho, r, Object.shows?_entity_iff.2 rfl, e, he, rfl⟩

theorem Sender.location?_eq_none_iff :
    location? h realm sender = none ↔ ∀ e, ¬Embodies realm sender e := by
  rw [Option.eq_none_iff_forall_ne_some]
  constructor
  · exact fun hnone e he => hnone _ (location?_eq_some_iff.2 ⟨e, he, rfl⟩)
  · intro hnone l hl
    obtain ⟨e, he, -⟩ := location?_eq_some_iff.1 hl
    exact hnone e he

end

/-! ## Reading -/

section

variable {h : Hierarchy} {sender : Option Sender} {nested : Class → String → Act Value}
  {s : Ref .server} {literal wx wy wz : String} {st : Store} {x y z : Coordinate Int32}
  {here : Option Location} {c : Class} {q : Ref .world}

theorem convert_blockInput :
    (blockInput s).convert h sender nested literal c st =
      match readBlock h st.realm s sender c literal with
      | .ok b => (.ok (some (.value st.supply (.block b))), { st with supply := st.supply + 1 })
      | .error fault => (.error fault, st) := by
  simp only [blockInput]
  rw [bind_apply_of_ok (Act.ask_apply id st), id]
  rcases readBlock h st.realm s sender c literal with fault | b <;> rfl

/-- The block that is read, for the parts of a literal. -/
theorem readBlock_eq
    (hsplit : splitPosition h st.realm s (Sender.location? h st.realm sender) c literal =
      .ok (q, wx, wy, wz))
    (hx : x.Written wx) (hy : y.Written wy) (hz : z.Written wz) :
    readBlock h st.realm s sender c literal =
      (resolvePosition saturatingAdd 0 ((Sender.location? h st.realm sender).map fun l =>
        (l.blockPos.x, l.blockPos.y, l.blockPos.z)) (needsSender h c literal) x y z).map
          fun (x, y, z) => ⟨q, x, y, z⟩ := by
  rw [readBlock, hsplit]
  simp only [Except.bind, bind]
  rw [hx.readInt_eq, hy.readInt_eq, hz.readInt_eq]
  rfl

/-! ### The parts -/

variable {realm : Realm} {r : Ref .world} {name lx ly lz : String}

theorem splitPosition_named (hcommas : ∀ p ∈ [name, lx, ly, lz], ',' ∉ p.toList)
    (hr : realm.world? s (Text.trim name) = some r) :
    splitPosition h realm s here c (",".intercalate [name, lx, ly, lz]) =
      .ok (r, Text.trim lx, Text.trim ly, Text.trim lz) := by
  have hcut : Text.cut ',' (",".intercalate [name, lx, ly, lz]) = [name, lx, ly, lz] :=
    Text.cut_intercalate (by simp) hcommas
  rw [splitPosition, hcut]
  simp only [List.map_cons, List.map_nil]
  rw [hr]

theorem splitPosition_unnamed (hcommas : ∀ p ∈ [lx, ly, lz], ',' ∉ p.toList)
    (hq : ((here.map Location.world).filter fun r => (realm.worlds.get? r).isSome).or
      (realm.defaultWorld? s) = some q) :
    splitPosition h realm s here c (",".intercalate [lx, ly, lz]) =
      .ok (q, Text.trim lx, Text.trim ly, Text.trim lz) := by
  have hcut : Text.cut ',' (",".intercalate [lx, ly, lz]) = [lx, ly, lz] :=
    Text.cut_intercalate (by simp) hcommas
  rw [splitPosition, hcut]
  simp only [List.map_cons, List.map_nil]
  rw [hq]

/-- A sender that is somewhere means the world where it is, if that is still there. -/
theorem splitPosition_of_embodies {first : Ref .world} {e : Entity}
    (hcommas : ∀ p ∈ [lx, ly, lz], ',' ∉ p.toList)
    (hfirst : (realm.worldsOf s).head? = some first) (he : Sender.Embodies realm sender e) :
    splitPosition h realm s (Sender.location? h realm sender) c (",".intercalate [lx, ly, lz]) =
      .ok (if (realm.worlds.get? e.location.world).isSome then e.location.world else first,
        Text.trim lx, Text.trim ly, Text.trim lz) := by
  refine splitPosition_unnamed hcommas ?_
  rw [Sender.location?_eq_some_iff.2 ⟨e, he, rfl⟩, Option.map_some, Option.filter_some]
  split
  · rfl
  · exact hfirst

/-- A sender that is nowhere leaves it at the first world. -/
theorem splitPosition_of_not_embodies {first : Ref .world}
    (hcommas : ∀ p ∈ [lx, ly, lz], ',' ∉ p.toList)
    (hfirst : (realm.worldsOf s).head? = some first)
    (hnone : ∀ e, ¬Sender.Embodies realm sender e) :
    splitPosition h realm s (Sender.location? h realm sender) c (",".intercalate [lx, ly, lz]) =
      .ok (first, Text.trim lx, Text.trim ly, Text.trim lz) := by
  refine splitPosition_unnamed hcommas ?_
  rw [Sender.location?_eq_none_iff.2 hnone]
  exact hfirst

/-- What has commas does not stand for null. -/
theorem intercalate_ne_nullToken {parts : List String} (hlength : 1 < parts.length)
    (hcommas : ∀ p ∈ parts, ',' ∉ p.toList) : ",".intercalate parts ≠ Registry.nullToken := by
  intro heq
  have hcut : Text.cut ',' (",".intercalate parts) = parts :=
    Text.cut_intercalate (List.ne_nil_of_length_pos (by omega)) hcommas
  have hnull : Text.cut ',' Registry.nullToken = [Registry.nullToken] := by decide
  rw [heq, hnull] at hcut
  rw [← hcut] at hlength
  exact absurd hlength (by decide)

end

namespace Registry

variable {h : Hierarchy} {s : Ref .server} {literal wx wy wz : String} {st : Store}
  {sender : Option Sender} {x y z : Coordinate Int32} {q : Ref .world} {e : Entity}

/-- The literal is read as this block, and nothing else happens. -/
def ReadsBlock (r : Registry) (h : Hierarchy) (sender : Option Sender) (literal : String)
    (st : Store) (b : Block) : Prop :=
  r.instantiate h sender .block literal st =
    .ok (some (.value st.supply (.block b)), { st with supply := st.supply + 1 })

theorem instantiate_block_eq (hnull : literal ≠ nullToken) :
    (shipped (some s)).instantiate h sender .block literal st =
      match readBlock h st.realm s sender .block literal with
      | .ok b => .ok (some (.value st.supply (.block b)), { st with supply := st.supply + 1 })
      | .error fault => .error (ConversionFault.wrap fault) := by
  obtain ⟨nested, hread⟩ := shipped_instantiate_of_inputFor? (h := h) inputFor?_shipped_block
    hnull sender st
  rw [hread, convert_blockInput]
  rcases readBlock h st.realm s sender .block literal with fault | b <;> rfl

section

variable (hnull : literal ≠ nullToken)
  (hsplit : splitPosition h st.realm s (Sender.location? h st.realm sender) .block literal =
    .ok (q, wx, wy, wz))
  (hx : x.Written wx) (hy : y.Written wy) (hz : z.Written wz)

include hnull hsplit hx hy hz

/-- A sender that is somewhere. -/
theorem readsBlock_of_embodies (he : Sender.Embodies st.realm sender e) :
    (shipped (some s)).ReadsBlock h sender literal st
      ⟨q, BlockPos.resolved x y z e.location.blockPos⟩ := by
  have hl := Sender.location?_eq_some_iff (h := h).2 ⟨e, he, rfl⟩
  rw [ReadsBlock, instantiate_block_eq hnull, readBlock_eq hsplit hx hy hz, hl]
  rfl

/-- A sender that is nowhere, when that matters. -/
theorem instantiate_block_of_relative (hnone : ∀ e, ¬Sender.Embodies st.realm sender e)
    (hrelative : ∃ k ∈ [x, y, z], k.isRelative) :
    (shipped (some s)).instantiate h sender .block literal st =
      .error ⟨needsSender h .block literal⟩ := by
  have hl := Sender.location?_eq_none_iff (h := h).2 hnone
  have hsome : (x.isRelative || y.isRelative || z.isRelative) = true := by
    simpa [or_assoc] using hrelative
  rw [instantiate_block_eq hnull, readBlock_eq hsplit hx hy hz, hl, Option.map_none,
    resolvePosition, if_pos hsome]
  rfl

/-- Any sender, when it does not matter where it is. -/
theorem readsBlock_of_absolute (habsolute : ∀ k ∈ [x, y, z], ¬k.isRelative) (here : BlockPos) :
    (shipped (some s)).ReadsBlock h sender literal st ⟨q, BlockPos.resolved x y z here⟩ := by
  have hsame := BlockPos.resolved_congr habsolute here
  have hnone : ¬(x.isRelative || y.isRelative || z.isRelative) = true := by
    simpa [and_assoc] using habsolute
  rw [ReadsBlock, instantiate_block_eq hnull, readBlock_eq hsplit hx hy hz]
  rcases Sender.location? h st.realm sender with _ | l
  · rw [hsame ⟨0, 0, 0⟩, Option.map_none, resolvePosition, if_neg hnone]
    rfl
  · rw [hsame l.blockPos]
    rfl

end

/-! ## Literals of blocks -/

variable {r : Ref .world} {w : World} {name lx ly lz : String}

/-- Wherever a server comes to, a literal of a world and three coordinates is read as the block of
    that world that the coordinates mean. A sender that stands for no entity cannot give offsets,
    and for numbers alone the sender does not matter. Without the world, the literal is read in the
    one where the sender is, if that is still there, and else in the first one of the server. -/
theorem instantiate_block (hst : Realm.Reached s st.realm) (h : Hierarchy)
    (hr : r ∈ st.realm.worldsOf s) (hw : st.realm.worlds.get? r = some w)
    (htrim : Text.trim w.name = w.name) (hcomma : ',' ∉ w.name.toList)
    (hname : Text.Pads name w.name) (hx : x.Spelled lx) (hy : y.Spelled ly) (hz : z.Spelled lz) :
    let reads := (shipped (some s)).ReadsBlock h
    let named := ",".intercalate [name, lx, ly, lz]
    let unnamed := ",".intercalate [lx, ly, lz]
    ∃ first, (st.realm.worldsOf s).head? = some first ∧
      (∀ sender e, Sender.Embodies st.realm sender e →
        ∃ p, BlockPos.Meant x y z e.location.blockPos p ∧ reads sender named st ⟨r, p⟩ ∧
          reads sender unnamed st
            ⟨if (st.realm.worlds.get? e.location.world).isSome then e.location.world else first,
              p⟩) ∧
      (∀ sender, (∀ e, ¬Sender.Embodies st.realm sender e) → (∃ k ∈ [x, y, z], k.isRelative) →
        ∀ literal ∈ [named, unnamed], (shipped (some s)).instantiate h sender .block literal st =
          .error ⟨needsSender h .block literal⟩) ∧
      ((∀ k ∈ [x, y, z], ¬k.isRelative) → ∃ p, (∀ here, BlockPos.Meant x y z here p) ∧
        (∀ sender, reads sender named st ⟨r, p⟩) ∧
        ∀ sender, (∀ e, ¬Sender.Embodies st.realm sender e) →
          reads sender unnamed st ⟨first, p⟩) := by
  intro reads named unnamed
  have hapart := hst.worldsApart
  obtain ⟨first, hfirst⟩ : ∃ first, (st.realm.worldsOf s).head? = some first :=
    Option.isSome_iff_exists.1 (List.isSome_head?.2 (List.ne_nil_of_mem hr))
  -- Worlds are found by name, and no two of a server have the same.
  have hworld : st.realm.world? s (Text.trim name) = some r := by
    rw [hname.trim_eq htrim]
    exact Realm.world?_eq_of_pairwise hapart.names hr hw (Text.sameIgnoringCase_refl _)
  have hcoordinates : ∀ p ∈ [lx, ly, lz], ',' ∉ p.toList := by
    simp [hx.not_mem, hy.not_mem, hz.not_mem]
  have hparts : ∀ p ∈ [name, lx, ly, lz], ',' ∉ p.toList :=
    List.forall_mem_cons.2 ⟨hname.not_mem (by decide) hcomma, hcoordinates⟩
  have hnamed : named ≠ nullToken := intercalate_ne_nullToken (by simp) hparts
  have hunnamed : unnamed ≠ nullToken := intercalate_ne_nullToken (by simp) hcoordinates
  have hsplit (here : Option Location) : splitPosition h st.realm s here .block named =
      .ok (r, Text.trim lx, Text.trim ly, Text.trim lz) := splitPosition_named hparts hworld
  have hx := hx.written_trim
  have hy := hy.written_trim
  have hz := hz.written_trim
  have hsomewhere {sender : Option Sender} {e : Entity}
      (he : Sender.Embodies st.realm sender e) :=
    splitPosition_of_embodies (h := h) (c := .block) hcoordinates hfirst he
  have hnowhere {sender : Option Sender} (hnone : ∀ e, ¬Sender.Embodies st.realm sender e) :=
    splitPosition_of_not_embodies (h := h) (c := .block) hcoordinates hfirst hnone
  refine ⟨first, hfirst, fun sender e he => ?somewhere, fun sender hnone hrelative => ?nowhere,
    fun habsolute => ?anywhere⟩
  case somewhere =>
    exact ⟨_, BlockPos.meant_resolved x y z e.location.blockPos,
      readsBlock_of_embodies hnamed (hsplit _) hx hy hz he,
      readsBlock_of_embodies hunnamed (hsomewhere he) hx hy hz he⟩
  case nowhere =>
    rintro literal hliteral
    rcases List.mem_pair.1 hliteral with rfl | rfl
    · exact instantiate_block_of_relative hnamed (hsplit _) hx hy hz hnone hrelative
    · exact instantiate_block_of_relative hunnamed (hnowhere hnone) hx hy hz hnone hrelative
  case anywhere =>
    refine ⟨BlockPos.resolved x y z ⟨0, 0, 0⟩, fun here => ?_,
      fun sender => readsBlock_of_absolute hnamed (hsplit _) hx hy hz habsolute _,
      fun sender hnone =>
        readsBlock_of_absolute hunnamed (hnowhere hnone) hx hy hz habsolute _⟩
    rw [BlockPos.resolved_congr habsolute _ here]
    exact BlockPos.meant_resolved x y z here

end Registry

/-- A server with one world, and a player in it. -/
def Snapshot.lodge : Snapshot :=
  { Snapshot.default with
    worlds := [{ WorldSpec.default with name := "lodge" }]
    players := [{ PlayerSpec.default with name := "alice" }] }

/-- The player on it can give offsets, and the console cannot. -/
theorem Registry.instantiate_block_lodge :
    let st := { Store.empty with realm := (Snapshot.lodge.load Realm.empty).2 }
    let literal := "lodge, 7,~-2 ,~"
    (∃ p : BlockPos, p.x.toInt = 7 ∧
      (shipped (some ⟨0⟩)).ReadsBlock .builtins (some ⟨"alice", some (.player ⟨0⟩)⟩) literal st
        ⟨⟨0⟩, p⟩) ∧
      (shipped (some ⟨0⟩)).instantiate .builtins (some .console) .block literal st =
        .error ⟨needsSender .builtins .block literal⟩ := by
  intro st literal
  have hload : Snapshot.lodge.load Realm.empty = (.ok ⟨0⟩, st.realm) := rfl
  have hst : Realm.Reached ⟨0⟩ st.realm := .loaded hload
  have hlisted : (⟨0⟩ : Ref .world) ∈ st.realm.worldsOf ⟨0⟩ := by decide +kernel
  have hname : (st.realm.worlds.get? ⟨0⟩).map World.name = some "lodge" := by decide +kernel
  obtain ⟨w, hw, hname⟩ := Option.map_eq_some_iff.1 hname
  have hplayer : (st.realm.players.get? ⟨0⟩).isSome := by decide +kernel
  obtain ⟨x, hx⟩ := Option.isSome_iff_exists.1 hplayer
  have halice : Sender.Embodies st.realm (some ⟨"alice", some (.player ⟨0⟩)⟩) x.base :=
    ⟨_, .player ⟨0⟩, rfl, rfl, congrArg (Option.map Player.base) hx⟩
  have hconsole : ∀ e, ¬Sender.Embodies st.realm (some .console) e := by
    rintro e ⟨who, r, hwho, hsubject, -⟩
    cases hwho
    cases hsubject
  have hspace : ∀ c ∈ " ".toList, Text.isBlank c := by simp [Text.isBlank]
  have hnone : ∀ c ∈ "".toList, Text.isBlank c := by simp
  have hx : (Coordinate.absolute 7).Spelled " 7" :=
    ⟨"7", .absolute 7, " ", "", hspace, hnone, rfl⟩
  have hy : (Coordinate.relative (-2)).Spelled "~-2 " :=
    ⟨"~-2", .relative (-2), "", " ", hnone, hspace, rfl⟩
  have hz : (Coordinate.relative 0).Spelled "~" := ⟨"~", .here, "", "", hnone, hnone, rfl⟩
  have hpads : Text.Pads "lodge" w.name := ⟨"", "", hnone, hnone, by rw [hname]; rfl⟩
  obtain ⟨_, -, hsomewhere, hnowhere, -⟩ :=
    instantiate_block hst .builtins hlisted hw (by rw [hname]; decide) (by rw [hname]; decide)
      hpads hx hy hz
  obtain ⟨p, hp, hreads, -⟩ := hsomewhere _ _ halice
  exact ⟨⟨p, hp.x, hreads⟩, hnowhere _ hconsole ⟨.relative 0, by simp, rfl⟩ _ List.mem_cons_self⟩

end Chainwalk
