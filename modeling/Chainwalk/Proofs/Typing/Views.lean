import Chainwalk.Method.Basic
import Chainwalk.Proofs.Typing.Classes

/-!
# Views and classes

The body of a method asks its receiver and its arguments for views of them. What an object shows
is said object by object, while what stands above what is declared class by class; the two agree
on the objects of the library's own making: such an object shows itself, in the type of values that
goes with the class, under every class with methods that it belongs to.

* `Object.HasForm`: what an object of a built-in class looks like;
* `Viewable.Shows`: all objects of a class show themselves as values of a type;
* `Act.Safe`: a call that never fails for a view, with what it gives;
* `Act.safe_receiver`, `Act.safe_argument`: asking for views is safe in a call that a method admits.
-/

namespace Chainwalk

/-! ## Objects of the library's own making -/

namespace Object

/-- Whether an object is of the library's own making. The objects and the constants of classes that
    a host has defined are not. -/
def isOwn : Object → Bool
  | value _ (.hosted _ _ _) | value _ (.constant (.defined _ _ _)) => false
  | _ => true

/-- What an object of a built-in class looks like, if it is of the library's own making. -/
inductive HasForm : Builtin → Object → Prop
  | scalar (tag : Nat) (k : ScalarKind) (v : k.Carrier) :
    HasForm (.scalar k) (.value tag (.scalar k v))
  | array (tag : Nat) (k : ScalarKind) (vs : List k.Carrier) :
    HasForm (.array k) (.value tag (.array k vs))
  | material (tag : Nat) (m : Material) : HasForm .material (.value tag (.constant (.material m)))
  | mobType (tag : Nat) (t : MobType) : HasForm .mobType (.value tag (.constant (.mobType t)))
  | gameMode (tag : Nat) (g : GameMode) : HasForm .gameMode (.value tag (.constant (.gameMode g)))
  | weather (tag : Nat) (w : Weather) : HasForm .weather (.value tag (.constant (.weather w)))
  | classRef (tag : Nat) (c : Class) : HasForm .classObject (.value tag (.classRef c))
  | location (tag : Nat) (l : Location) : HasForm .location (.value tag (.location l))
  | block (tag : Nat) (b : Block) : HasForm .block (.value tag (.block b))
  | list (tag : Nat) (elements : List Value) : HasForm .arrayList (.list tag elements)
  | server (r : Ref .server) : HasForm .server (.server r)
  | world (r : Ref .world) : HasForm .world (.world r)
  | player (r : Ref .player) : HasForm .player (.player r)
  | mob (r : Ref .mob) : HasForm .mob (.mob r)
  | inventory (r : Ref .inventory) : HasForm .inventory (.inventory r)
  | stack (r : Ref .stack) : HasForm .itemStack (.stack r)

theorem exists_hasForm {o : Object} (ho : o.isOwn) :
    ∃ b, o.class_ = .builtin b ∧ HasForm b o := by
  cases o with
  | value tag datum =>
    cases datum with
    | scalar k v => exact ⟨_, rfl, .scalar tag k v⟩
    | array k vs => exact ⟨_, rfl, .array tag k vs⟩
    | constant k =>
      cases k with
      | material m => exact ⟨_, rfl, .material tag m⟩
      | mobType t => exact ⟨_, rfl, .mobType tag t⟩
      | gameMode g => exact ⟨_, rfl, .gameMode tag g⟩
      | weather w => exact ⟨_, rfl, .weather tag w⟩
      | defined index ordinal name => cases ho
    | classRef c => exact ⟨_, rfl, .classRef tag c⟩
    | location l => exact ⟨_, rfl, .location tag l⟩
    | block b => exact ⟨_, rfl, .block tag b⟩
    | hosted c label isSealed => cases ho
  | list tag elements => exact ⟨_, rfl, .list tag elements⟩
  | server r => exact ⟨_, rfl, .server r⟩
  | world r => exact ⟨_, rfl, .world r⟩
  | player r => exact ⟨_, rfl, .player r⟩
  | mob r => exact ⟨_, rfl, .mob r⟩
  | inventory r => exact ⟨_, rfl, .inventory r⟩
  | stack r => exact ⟨_, rfl, .stack r⟩

/-- The objects of one of the lowest classes all look alike. -/
theorem hasForm_of_isA {h : Hierarchy} {o : Object} {b : Builtin} (ho : o.isOwn)
    (hb : b.isLowest) (hc : h.isA o.class_ (.builtin b)) : HasForm b o := by
  obtain ⟨a, ha, hform⟩ := exists_hasForm ho
  rw [ha] at hc
  rwa [← h.eq_of_isA_builtin hb hc]

end Object

/-! ## What shows itself -/

/-- The type of values in which the objects of a built-in class show themselves. -/
inductive ShownAs : (α : Type) → [Viewable α] → Builtin → Prop
  | int : ShownAs Int32 (.scalar .int)
  | long : ShownAs Int64 (.scalar .long)
  | double : ShownAs Float (.scalar .double)
  | string : ShownAs String (.scalar .string)
  | classObject : ShownAs Class .classObject
  | material : ShownAs Material .material
  | mobType : ShownAs MobType .mobType
  | gameMode : ShownAs GameMode .gameMode
  | weather : ShownAs Weather .weather
  | location : ShownAs Location .location
  | block : ShownAs Block .block
  | collection : ShownAs (List Value) .collection
  | list : ShownAs (List Value) .list
  | entity : ShownAs EntityRef .entity
  | player : ShownAs (Ref .player) .player
  | mob : ShownAs (Ref .mob) .mob
  | server : ShownAs (Ref .server) .server
  | world : ShownAs (Ref .world) .world
  | inventory : ShownAs (Ref .inventory) .inventory
  | itemStack : ShownAs (Ref .stack) .itemStack

section

variable {α : Type} [Viewable α] {b : Builtin} {h : Hierarchy} {o : Object}

/-- An object of the library's own making shows itself under every class that it belongs to. -/
theorem ShownAs.exists_shows? (hs : ShownAs α b) (ho : o.isOwn)
    (hc : h.isA o.class_ (.builtin b)) : ∃ a, o.shows? α h (.builtin b) = some a := by
  cases hs with
  | collection | list =>
    -- The only objects below are lists, and these ask for what lies above their class.
    obtain ⟨a, ha, hform⟩ := Object.exists_hasForm ho
    rw [ha] at hc
    cases hform with
    | list tag elements =>
      refine ⟨elements, ?_⟩
      simp [Object.shows?, Object.view?, hc, Viewable.ofView?]
    | _ => simp [h.isA_builtins_iff, Builtin.above] at hc
  | entity =>
    -- Players and mobs have a part that is an entity.
    obtain ⟨a, ha, hform⟩ := Object.exists_hasForm ho
    rw [ha] at hc
    cases hform with
    | player r => exact ⟨.player r, rfl⟩
    | mob r => exact ⟨.mob r, rfl⟩
    | _ => simp [h.isA_builtins_iff, Builtin.above] at hc
  | _ =>
    cases Object.hasForm_of_isA ho rfl hc
    exact ⟨_, rfl⟩

/-- What belongs to the enumerations is a constant. -/
theorem Object.exists_constant? (ho : o.isOwn) (hc : h.isA o.class_ .enumeration) :
    ∃ k, o.constant? = some k := by
  obtain ⟨a, ha, hform⟩ := exists_hasForm ho
  rw [ha] at hc
  cases hform with
  | material | mobType | gameMode | weather => exact ⟨_, rfl⟩
  | _ => simp [h.isA_builtins_iff, Builtin.above] at hc

end

/-! ## Calls that never fail for a view -/

/-- Whether a fault is one of views, or stands for one. -/
def Fault.isView : Fault → Bool
  | .view _ => true
  | .raised _ cause | .conversion cause | .context _ cause => cause.isView
  | _ => false

namespace Act

/-- A call that does not fail for a view, and gives nothing but what has the property. -/
def Safe {α : Type} (P : α → Prop) (a : Act α) : Prop :=
  ∀ s, match (a s).1 with
    | .ok v => P v
    | .error fault => fault.isView = false

namespace Safe

variable {α β : Type} {P : α → Prop} {Q : β → Prop}

theorem pure {a : α} (ha : P a) : Safe P (Pure.pure a) := fun _ => ha

theorem throw {fault : Fault} (hf : fault.isView = false) :
    Safe P (MonadExcept.throw fault) := fun _ => hf

theorem bind {a : Act α} {k : α → Act β} (ha : Safe P a) (hk : ∀ x, P x → Safe Q (k x)) :
    Safe Q (a >>= k) := by
  intro s
  have hs := ha s
  rw [bind_apply]
  generalize a s = first at hs
  rcases first with ⟨fault | x, t⟩
  · exact hs
  · exact hk x hs t

/-- A check before the call. -/
theorem guard {c : Prop} [Decidable c] {fault : Fault} (hf : fault.isView = false)
    {k : PUnit → Act β} (hk : Safe Q (k ⟨⟩)) :
    Safe Q (if c then MonadExcept.throw fault >>= k else k ⟨⟩) := by
  split
  · exact (throw (P := fun _ => True) hf).bind fun _ _ => hk
  · exact hk

theorem map {a : Act α} (ha : Safe P a) (f : α → β) : Safe (fun _ => True) (f <$> a) := by
  rw [← bind_pure_comp]
  exact ha.bind fun _ _ => pure trivial

theorem mapM {f : α → Act β} (hf : ∀ x, Safe (fun _ => True) (f x)) (xs : List α) :
    Safe (fun _ => True) (xs.mapM f) := by
  induction xs with
  | nil => exact pure trivial
  | cons x xs ih =>
    rw [List.mapM_cons]
    exact (hf x).bind fun _ _ => ih.bind fun _ _ => pure trivial

end Safe

section

variable {α : Type} {h : Hierarchy}

theorem safe_ask (f : Realm → α) : Safe (fun _ => True) (ask f) := fun _ => trivial

theorem safe_code (o : Object) : Safe (fun _ => True) (code o) := fun _ => trivial

theorem safe_ofExcept {P : α → Prop} {e : Except Fault α} (hv : ∀ v, e = .ok v → P v)
    (hf : ∀ fault, e = .error fault → fault.isView = false) : Safe P (ofExcept e) := by
  rcases e with fault | v
  · exact fun _ => hf fault rfl
  · exact fun _ => hv v rfl

/-- What the realm refuses, it refuses in words of its own. -/
theorem safe_refusal (e : Except Refusal α) :
    Safe (fun _ => True) (ofExcept (e.mapError Fault.refused)) := by
  cases e with
  | error refusal => exact fun _ => rfl
  | ok v => exact fun _ => trivial

theorem safe_realm (m : RealmM α) : Safe (fun _ => True) (realm m) :=
  fun s => safe_refusal (m s.realm).1 s

theorem safe_new {d : Datum} {c : Class} (hd : h.isA d.class_ c) :
    Safe (h.FitsResult (some c)) (new d) :=
  fun _ => h.fits_some.2 hd

theorem safe_scalar (k : ScalarKind) (v : k.Carrier) :
    Safe (h.FitsResult (some (.scalar k))) (scalar k v) :=
  safe_new (h.isA_self _)

theorem safe_newList (elements : List Value) :
    Safe (h.FitsResult (some .list)) (newList elements) := by
  have hlist : h.isA .arrayList .list := h.isA_builtins_iff.2 (by decide)
  exact fun _ => h.fits_some.2 hlist

/-- A list of new values. -/
theorem safe_newListEach (f : α → Datum) (xs : List α) :
    Safe (h.FitsResult (some .list)) (do newList (← xs.mapM fun x => new (f x))) := by
  have hnew (x : α) : Safe (fun _ => True) (new (f x)) := fun _ => trivial
  exact (Safe.mapM hnew xs).bind fun ys _ => safe_newList ys

/-- Null is a result of every method. -/
theorem safe_null {c : Option Class} : Safe (h.FitsResult c) (Pure.pure (none : Value)) := by
  cases c with
  | none => exact .pure rfl
  | some c => exact .pure (h.fits_none c)

end

end Act

/-! ## What a method is called with -/

/-- A call with objects of the library's own making: a receiver of the class that declares the
    method, and for each parameter an argument that is null or of its class. -/
structure Method.Admits (h : Hierarchy) (m : Method) (recv : Object) (args : List Value) :
    Prop where
  receiver_own : recv.isOwn
  receiver_isA : h.isA recv.class_ m.declaring
  args_own : ∀ o, some o ∈ args → o.isOwn
  args_fit : List.Forall₂ h.Fits m.params args

namespace Act

variable {α : Type} [Viewable α] {b : Builtin} {h : Hierarchy} {m : Method} {recv : Object}
  {args : List Value}

theorem safe_receiver (hs : ShownAs α b) (hm : m.Admits h recv args)
    (hc : m.declaring = .builtin b) :
    Safe (fun _ => True) (ofExcept (receiver α h recv (.builtin b))) := by
  obtain ⟨a, ha⟩ := hs.exists_shows? hm.receiver_own (hc ▸ hm.receiver_isA)
  refine safe_ofExcept (fun _ _ => trivial) fun fault hf => ?_
  rw [receiver, ha] at hf
  cases hf

/-- Null is refused as an argument that has to show itself, but not for a view. -/
theorem safe_argument (hs : ShownAs α b) (hm : m.Admits h recv args) {index : Nat}
    (hc : m.params[index]? = some (.builtin b)) :
    Safe (fun _ => True) (ofExcept (argument α h args index (.builtin b))) := by
  refine safe_ofExcept (fun _ _ => trivial) fun fault hf => ?_
  -- There are as many arguments as parameters, so none is missing.
  obtain ⟨hparam, hget⟩ := List.getElem?_eq_some_iff.1 hc
  have harg : index < args.length := hm.args_fit.length_eq ▸ hparam
  have hfits := hm.args_fit.get hparam harg
  rw [argument, List.getElem?_eq_getElem harg] at hf
  rcases hvalue : args[index] with _ | o
  · rw [hvalue] at hf
    cases hf
    rfl
  · -- An argument that is there is of the class of its parameter, so it shows itself.
    have ho : o.isOwn := hm.args_own o (hvalue ▸ List.getElem_mem harg)
    have hclass : h.isA o.class_ (.builtin b) := by
      rw [List.get_eq_getElem, List.get_eq_getElem] at hfits
      simpa [hget, hvalue] using hfits
    obtain ⟨a, ha⟩ := hs.exists_shows? ho hclass
    rw [hvalue] at hf
    simp only [ha] at hf
    cases hf

end Act

end Chainwalk
