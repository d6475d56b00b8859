import Chainwalk.Proofs.Registry.Handlers
import Chainwalk.Proofs.Seeds.Text

/-!
# Conversions in disguise

Whatever is read and whatever is written by the handlers of plain values and of residents is
the same in disguise. That holds of reading because every part of it is blind. It holds of
writing, although texts of lists may tell of worlds, because lists are never written by their
texts.

* `Registry.blind_attempt`: reading in a registry of blind handlers;
* `Registry.formatObject_disguised`: writing in the registry of a server.
-/

namespace Chainwalk

/-! ## Calls -/

namespace Store

/-- The store with its realm in disguise. -/
def disguised (f : Disguise) (s : Store) : Store :=
  { s with realm := s.realm.disguised f, codes := f.codes }

end Store

section

variable {f : Disguise} {α β : Type}

namespace Act

/-- A blind change of the realm is a blind call. -/
theorem blind_realm {m : RealmM α} (hm : Blind (Realm.disguised f) m) :
    Blind (Store.disguised f) (realm m) := by
  intro s
  simp only [realm, Store.disguised, hm s.realm]
  rfl

theorem blind_bind_getWorld (r : Ref .world) {k : World → Act α}
    (hk : ∀ w, Blind (Store.disguised f) (k w)) (hs : ∀ w seed, k (w.withSeed seed) = k w) :
    Blind (Store.disguised f) (realm (Realm.getWorld r) >>= k) := by
  refine .bind_of_map (fun s => ?_) hk fun w => hs w (f.seed r w.seed)
  simp only [realm, Store.disguised, Realm.getWorld_disguised]
  rcases Realm.getWorld r s.realm with ⟨refusal | w, t⟩ <;> rfl

/-- A question that has the same answer in disguise. -/
theorem blind_ask {q : Realm → α} (hq : ∀ realm, q (realm.disguised f) = q realm) :
    Blind (Store.disguised f) (ask q) :=
  .get_bind (fun _ => .pure _) fun s => congrArg Pure.pure (hq s.realm)

theorem blind_tag : Blind (Store.disguised f) tag := .modifyGet fun _ => rfl

theorem blind_new (d : Datum) : Blind (Store.disguised f) (new d) :=
  blind_tag.bind fun _ => .pure _

theorem blind_scalar (k : ScalarKind) (v : k.Carrier) : Blind (Store.disguised f) (scalar k v) :=
  blind_new _

theorem blind_newList (elements : List Value) : Blind (Store.disguised f) (newList elements) :=
  blind_tag.bind fun _ => .pure _

theorem blind_newListOf (objects : List Object) : Blind (Store.disguised f) (newListOf objects) :=
  blind_newList _

theorem blind_ofExcept (e : Except Fault α) : Blind (Store.disguised f) (ofExcept e) :=
  fun _ => rfl

theorem blind_orElse (v : Option α) (fault : Fault) :
    Blind (Store.disguised f) (orElse v fault) := by
  cases v with
  | none => exact .throw fault
  | some a => exact .pure a

/-- What is made of an answer must be the same in disguise, even if the answer is not. -/
theorem blind_bind_ask {q : Realm → α} {k : α → Act β}
    (hk : ∀ a, Blind (Store.disguised f) (k a))
    (hq : ∀ realm, k (q (realm.disguised f)) = k (q realm)) :
    Blind (Store.disguised f) (ask q >>= k) := by
  intro s
  change k (q (s.realm.disguised f)) (s.disguised f) = _
  rw [hq]
  exact hk (q s.realm) s

end Act

end

/-! ## Reading -/

/-- An input handler that does not see the change `u`, if the registry does not. -/
def InputHandler.Blind (u : Store → Store) (i : InputHandler) : Prop :=
  ∀ h sender nested literal c, (∀ d part, Chainwalk.Blind u (nested d part)) →
    Chainwalk.Blind u (i.convert h sender nested literal c)

namespace InputHandler

variable {f : Disguise}

theorem blind_scalarInput (k : ScalarKind) : (scalarInput k).Blind (Store.disguised f) :=
  fun _ _ _ _ _ _ => (Act.blind_ofExcept _).bind fun _ => Act.blind_new _

theorem blind_arrayInput (k : ScalarKind) : (arrayInput k).Blind (Store.disguised f) :=
  fun _ _ _ _ _ _ => (Act.blind_ofExcept _).bind fun _ => Act.blind_new _

theorem blind_enumerationInput : enumerationInput.Blind (Store.disguised f) :=
  fun _ _ _ _ _ _ => (Act.blind_orElse _ _).bind fun _ => Act.blind_new _

theorem blind_collectionInput : collectionInput.Blind (Store.disguised f) := by
  intro h sender nested literal c hn
  have hlist : Chainwalk.Blind (Store.disguised f) (do
      let elements ← (Text.elementTexts literal).mapM (nested .string)
      Act.newList elements) :=
    .bind (.mapM (hn _) _) fun _ => Act.blind_newList _
  simp only [collectionInput]
  split
  · exact .bind (.throw _) fun _ => hlist
  · exact hlist

theorem blind_worldInput (s : Ref .server) : (worldInput s).Blind (Store.disguised f) := by
  intro h sender nested literal c hn
  refine Act.blind_bind_ask (fun realm => ?_) fun realm => ?_
  · exact (Act.blind_orElse _ _).bind fun _ => .pure _
  · simp only [id_eq, Realm.worldsOf_disguised, Realm.world?_disguised,
      show (realm.disguised f).worldName = realm.worldName from
        funext (Realm.worldName_disguised f realm)]

theorem blind_playerInput (s : Ref .server) : (playerInput s).Blind (Store.disguised f) :=
  fun _ _ _ _ _ _ => Act.blind_bind_ask
    (fun _ => (Act.blind_orElse _ _).bind fun _ => .pure _) fun _ => rfl

theorem entityNamed?_disguised (realm : Realm) (s : Ref .server) (word : String) :
    (realm.disguised f).entityNamed? s word = realm.entityNamed? s word := by
  simp only [Realm.entityNamed?, Realm.entityById?_disguised, Realm.player?_disguised]

theorem blind_entityInput (s : Ref .server) : (entityInput s).Blind (Store.disguised f) := by
  intro h sender nested literal c hn
  refine Act.blind_bind_ask (fun _ => (Act.blind_orElse _ _).bind fun e => ?_)
    fun realm => by rw [entityNamed?_disguised]
  dsimp only
  split
  · exact .bind (.throw _) fun _ => .pure _
  · exact .pure _

theorem location?_disguised (h : Hierarchy) (realm : Realm) (sender : Option Sender) :
    Sender.location? h (realm.disguised f) sender = Sender.location? h realm sender := by
  simp only [Sender.location?, Realm.entity?_disguised]

theorem splitPosition_disguised (h : Hierarchy) (realm : Realm) (s : Ref .server)
    (here : Option Location) (target : Class) (literal : String) :
    splitPosition h (realm.disguised f) s here target literal =
      splitPosition h realm s here target literal := by
  simp only [splitPosition, Realm.isSome_get?_disguised, Realm.defaultWorld?_disguised,
    Realm.world?_disguised]

theorem blind_locationInput (s : Ref .server) : (locationInput s).Blind (Store.disguised f) := by
  intro h sender nested literal c hn
  refine Act.blind_bind_ask
    (fun _ => (Act.blind_ofExcept _).bind fun _ => Act.blind_new _) fun realm => ?_
  simp only [id_eq, readLocation, location?_disguised, splitPosition_disguised]

theorem blind_blockInput (s : Ref .server) : (blockInput s).Blind (Store.disguised f) := by
  intro h sender nested literal c hn
  refine Act.blind_bind_ask
    (fun _ => (Act.blind_ofExcept _).bind fun _ => Act.blind_new _) fun realm => ?_
  simp only [id_eq, readBlock, location?_disguised, splitPosition_disguised]

theorem blind_itemStackInput : itemStackInput.Blind (Store.disguised f) := by
  intro h sender nested literal c hn
  refine (Act.blind_ofExcept _).bind fun ⟨name, count⟩ => .bind (hn _ _) fun v =>
    (Act.blind_orElse _ _).bind fun o => (Act.blind_orElse _ _).bind fun m =>
    .bind ?_ fun r => .pure _
  exact Act.blind_realm (Realm.blind_newStack _)

end InputHandler

/-! ## Writing -/

/-- An output handler that writes the same in disguise, unless it be lists. -/
def OutputHandler.Blind (f : Disguise) (i : OutputHandler) : Prop :=
  ∀ h realm o nested, (∀ tag elements, o ≠ .list tag elements) →
    i.render h (Realm.disguised f realm) o nested = i.render h realm o nested

namespace OutputHandler

variable {f : Disguise}

/-- What is written in a line of its own, if the line is the same in disguise. -/
theorem blind_lineOutput (α : Type) [Viewable α] (c : Class) {line : Realm → α → Option String}
    (hline : ∀ realm, line (Realm.disguised f realm) = line realm) :
    (lineOutput α c line).Blind f := by
  intro h realm o nested ho
  simp only [lineOutput, hline, Object.text_disguised h f realm ho]

theorem writeLocation_disguised (realm : Realm) (l : Location) :
    (realm.disguised f).writeLocation l = realm.writeLocation l := by
  simp only [Realm.writeLocation, Realm.worldName_disguised]

theorem writeCondition_disguised (realm : Realm) (e : Entity) :
    (realm.disguised f).writeCondition e = realm.writeCondition e := by
  simp only [Realm.writeCondition, writeLocation_disguised]

theorem blind_playerOutput : playerOutput.Blind f :=
  blind_lineOutput _ _ fun realm => by
    have hwrite : (realm.disguised f).writePlayer = realm.writePlayer := funext fun p => by
      simp only [Realm.writePlayer, writeCondition_disguised]
    rw [hwrite]
    rfl

theorem blind_entityOutput : entityOutput.Blind f :=
  blind_lineOutput _ _ fun realm => by
    have hwrite : (realm.disguised f).writeEntity = realm.writeEntity := funext fun e => by
      simp only [Realm.writeEntity, writeCondition_disguised]
    simp only [hwrite, Realm.entity?_disguised]

theorem blind_locationOutput : locationOutput.Blind f :=
  blind_lineOutput _ _ fun realm => funext fun l => congrArg some (writeLocation_disguised realm l)

theorem blind_serverOutput : serverOutput.Blind f :=
  blind_lineOutput _ _ fun _ => rfl

theorem blind_arrayOutput (k : ScalarKind) : (arrayOutput k).Blind f := by
  intro h realm o nested ho
  simp only [arrayOutput, Object.text_disguised h f realm ho]

theorem blind_enumerationOutput : enumerationOutput.Blind f := by
  intro h realm o nested ho
  simp only [enumerationOutput, Object.text_disguised h f realm ho]

theorem blind_blockOutput : blockOutput.Blind f := by
  intro h realm o nested ho
  cases o with
  | value tag d =>
    cases d with
    | block b => simp only [blockOutput, Realm.material_disguised, Realm.worldName_disguised]
    | scalar | array | constant | classRef | location | hosted =>
      exact Object.text_disguised h f realm ho
  | list | server | world | player | mob | inventory | stack =>
    exact Object.text_disguised h f realm ho

theorem blind_itemStackOutput : itemStackOutput.Blind f := by
  intro h realm o nested ho
  cases o with
  | stack r =>
    have htext := Object.text_disguised h f realm ho
    simp only [itemStackOutput, htext]
    rfl
  | value | list | server | world | player | mob | inventory =>
    exact Object.text_disguised h f realm ho

theorem blind_inventoryOutput : inventoryOutput.Blind f := by
  intro h realm o nested ho
  cases o with
  | inventory r =>
    have htext := Object.text_disguised h f realm ho
    simp only [inventoryOutput, htext]
    rfl
  | value | list | server | world | player | mob | stack =>
    exact Object.text_disguised h f realm ho

theorem blind_worldOutput : worldOutput.Blind f := by
  intro h realm o nested ho
  cases o with
  | world r =>
    have htext := Object.text_disguised h f realm ho
    simp only [worldOutput, htext, Realm.get?_worlds_disguised]
    cases realm.worlds.get? r <;> rfl
  | value | list | server | player | mob | inventory | stack =>
    exact Object.text_disguised h f realm ho

theorem blind_collectionOutput : collectionOutput.Blind f := by
  intro h realm o nested ho
  cases o with
  | list tag elements => exact absurd rfl (ho tag elements)
  | value | server | world | player | mob | inventory | stack =>
    exact Object.text_disguised h f realm ho

end OutputHandler

/-! ## Registries -/

/-- A handler that does not see disguises. -/
def Handler.Blind (f : Disguise) : Handler → Prop
  | .input i => i.Blind (Store.disguised f)
  | .output o => o.Blind f

variable {f : Disguise}

theorem Handler.blind_of_mem_plainHandlers {k : Handler} (hk : k ∈ plainHandlers) : k.Blind f := by
  simp only [plainHandlers, List.mem_append, List.mem_map, List.mem_cons, List.not_mem_nil,
    or_false] at hk
  rcases hk with ((⟨k, -, rfl⟩ | ⟨k, -, rfl⟩) | ⟨k, -, rfl⟩) | rfl | rfl | rfl | rfl
  · exact InputHandler.blind_scalarInput k
  · exact InputHandler.blind_arrayInput k
  · exact OutputHandler.blind_arrayOutput k
  · exact InputHandler.blind_enumerationInput
  · exact OutputHandler.blind_enumerationOutput
  · exact InputHandler.blind_collectionInput
  · exact OutputHandler.blind_collectionOutput

theorem Handler.blind_of_mem_residentHandlers {s : Ref .server} {k : Handler}
    (hk : k ∈ residentHandlers s) : k.Blind f := by
  simp only [residentHandlers, List.mem_cons, List.not_mem_nil, or_false] at hk
  rcases hk with rfl | rfl | rfl | rfl | rfl | rfl | rfl | rfl | rfl | rfl | rfl | rfl | rfl | rfl
  · exact InputHandler.blind_worldInput s
  · exact InputHandler.blind_playerInput s
  · exact InputHandler.blind_entityInput s
  · exact InputHandler.blind_locationInput s
  · exact InputHandler.blind_blockInput s
  · exact InputHandler.blind_itemStackInput
  · exact OutputHandler.blind_playerOutput
  · exact OutputHandler.blind_entityOutput
  · exact OutputHandler.blind_locationOutput
  · exact OutputHandler.blind_blockOutput
  · exact OutputHandler.blind_itemStackOutput
  · exact OutputHandler.blind_inventoryOutput
  · exact OutputHandler.blind_worldOutput
  · exact OutputHandler.blind_serverOutput

namespace Registry

theorem blind_of_mem_handlers_ofServer {s : Ref .server} {k : Handler}
    (hk : k ∈ (ofServer s).handlers) : k.Blind f := by
  rcases mem_handlers_registerAll hk with hk | hk
  · exact Handler.blind_of_mem_residentHandlers hk
  · rcases mem_handlers_registerAll hk with hk | hk
    · exact Handler.blind_of_mem_plainHandlers hk
    · cases hk

/-- Lists are written element by element, not by their texts. -/
theorem outputFor?_ofServer_arrayList (s : Ref .server) :
    (ofServer s).outputFor? .builtins .arrayList = some collectionOutput := by
  cbv

/-! ### Reading -/

variable {u : Store → Store} {r : Registry} {h : Hierarchy} {sender : Option Sender}

/-- Literals are read by blind handlers without regard to what these do not see. -/
theorem blind_attemptWithin (hr : ∀ i ∈ r.inputs, i.Blind u) (depth : Nat) (c : Class)
    (literal : String) : Blind u (r.attemptWithin h sender depth c literal) := by
  induction depth generalizing c literal with
  | zero =>
    rw [attemptWithin_zero]
    split
    · exact .pure none
    · cases r.inputFor? h c <;> exact .throw _
  | succ depth ih =>
    rw [attemptWithin_succ]
    split
    · exact .pure none
    · cases hi : r.inputFor? h c with
      | none => exact .throw _
      | some i =>
        -- Nested conversions have less depth left.
        have hnested (d : Class) (part : String) : Blind u (r.nestedWithin h sender depth d part) :=
          (ih d part).adapt _
        exact (hr i (mem_of_inputFor? hi) h sender _ literal c hnested).adapt _

theorem blind_attempt (hr : ∀ i ∈ r.inputs, i.Blind u) (c : Class) (literal : String) :
    Blind u (r.attempt h sender c literal) :=
  blind_attemptWithin hr _ c literal

theorem blind_attemptEach (hr : ∀ i ∈ r.inputs, i.Blind u) (cs : List Class)
    (ls : List String) : Blind u (r.attemptEach h sender cs ls) := by
  induction cs generalizing ls with
  | nil => exact .pure []
  | cons c cs ih =>
    cases ls with
    | nil => exact .pure []
    | cons l ls => exact (blind_attempt hr c l).bind fun v => (ih ls).bind fun vs => .pure _

/-! ### Writing -/

/-- Whatever is written is the same in disguise. -/
theorem formatObject_disguised (hr : ∀ o ∈ r.outputs, o.Blind f)
    (hlists : r.outputFor? h .arrayList = some collectionOutput) (realm : Realm) (o : Object) :
    r.formatObject h (realm.disguised f) o = r.formatObject h realm o := by
  induction hn : o.weight using Nat.strongRecOn generalizing o with
  | _ n ih =>
    -- What is written inside of an object weighs less.
    have hnested : (fun (p : Object) (_ : p.weight < o.weight) =>
        r.formatObject h (realm.disguised f) p) = fun p _ => r.formatObject h realm p :=
      funext fun p => funext fun hp => ih p.weight (hn ▸ hp) p rfl
    rw [formatObject, formatObject, hnested]
    by_cases ho : ∃ tag elements, o = .list tag elements
    · -- The handler of collections does nothing but write the elements.
      obtain ⟨tag, elements, rfl⟩ := ho
      rw [show (Object.list tag elements).class_ = .arrayList from rfl, hlists]
      rfl
    · have ho : ∀ tag elements, o ≠ .list tag elements := fun tag elements heq =>
        ho ⟨tag, elements, heq⟩
      cases hi : r.outputFor? h o.class_ with
      | none => exact Object.text_disguised h f realm ho
      | some i => exact hr i (mem_of_outputFor? hi) h realm o _ ho

end Registry

end Chainwalk
