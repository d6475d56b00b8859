import Mathlib
import Chainwalk.Object.Basic

/-!
# Values and their classes

A value *fits* a class if it is null or an object whose class is that class or lies below it.
What lies above a built-in class does not depend on the classes that a host has defined, so an
object of the library's own making that fits a class has one of a few shapes.

* `Hierarchy.isA_iff`: a class lies below itself, the root and all above its supertypes;
* `Hierarchy.isA_of_mem_linearization`: a class lies below all of its linearization;
* `Hierarchy.isA_builtin_iff`: what lies above a built-in class;
* `Hierarchy.Fits`, `Hierarchy.FitsResult`: values of a class, and results of a method.
-/

namespace Chainwalk

namespace Hierarchy

variable (h : Hierarchy)

/-! ## What lies above a class -/

theorem isA_iff {c d : Class} :
    h.isA c d ↔ d = c ∨ d = .object ∨ ∃ s ∈ h.supers c, h.isA s d := by
  rw [isA_eq]
  simp [or_assoc, eq_comm (a := c)]

/-- What lies above a supertype lies above the class. -/
theorem isA_of_mem_supers {c s d : Class} (hs : s ∈ h.supers c) (hd : h.isA s d) : h.isA c d :=
  h.isA_iff.2 (.inr (.inr ⟨s, hs, hd⟩))

/-- What a visit of a class finds lies above it. -/
theorem isA_of_mem_visit {c d : Class} {done : List Class} (hd : d ∈ h.visit c done) :
    d ∈ done ∨ h.isA c d := by
  induction hn : rank c using Nat.strongRecOn generalizing c done with
  | _ n ih =>
    rw [visit_eq] at hd
    split at hd
    · exact .inl hd
    · rcases List.mem_cons.1 hd with rfl | hd
      · exact .inr (h.isA_self d)
      · -- The supertypes are visited from the last to the first, and each is lower.
        suffices ∀ supers : List Class, (∀ s ∈ supers, s ∈ h.supers c) →
            d ∈ supers.foldr h.visit done → d ∈ done ∨ h.isA c d from this _ (fun _ hs => hs) hd
        intro supers
        induction supers with
        | nil => exact fun _ hd => .inl hd
        | cons s supers ih' =>
          intro hsupers hd
          have hs := hsupers s List.mem_cons_self
          rcases ih _ (hn ▸ h.rank_lt_of_mem_supers hs) hd rfl with hd | hd
          · exact ih' (fun s hs => hsupers s (List.mem_cons_of_mem _ hs)) hd
          · exact .inr (h.isA_of_mem_supers hs hd)

/-- A class lies below all of its linearization. -/
theorem isA_of_mem_linearization {c d : Class} (hd : d ∈ h.linearization c) : h.isA c d := by
  rcases List.mem_append.1 hd with hd | hd
  · exact (h.isA_of_mem_visit hd).resolve_left List.not_mem_nil
  · rw [List.mem_singleton.1 hd]
    exact h.isA_object c

end Hierarchy

/-! ## Built-in classes -/

/-- The built-in classes that lie above one, itself and the root apart. -/
def Builtin.above : Builtin → List Builtin
  | .arrayList => [.list, .collection]
  | .list => [.collection]
  | .player | .mob => [.entity]
  | .gameMode | .material | .mobType | .weather => [.enumeration]
  | _ => []

/-- Whether no other built-in class lies below a built-in class. -/
def Builtin.isLowest : Builtin → Bool
  | .object | .enumeration | .collection | .list | .entity => false
  | _ => true

namespace Hierarchy

variable (h : Hierarchy)

/-- What lies above a built-in class, whatever a host has defined. -/
theorem isA_builtin_iff {a : Builtin} {d : Class} :
    h.isA (.builtin a) d ↔ d = .builtin a ∨ d = .object ∨ ∃ b ∈ a.above, d = .builtin b := by
  have hnone {b : Builtin} (hb : b.info.supers = []) :
      h.isA (.builtin b) d ↔ d = .builtin b ∨ d = .object := by
    rw [isA_iff, show h.supers (.builtin b) = [] from hb]
    simp
  -- No built-in class has more than one direct supertype.
  have hone {b p : Builtin} (hb : b.info.supers = [.builtin p]) :
      h.isA (.builtin b) d ↔ d = .builtin b ∨ d = .object ∨ h.isA (.builtin p) d := by
    rw [isA_iff, show h.supers (.builtin b) = [.builtin p] from hb]
    simp
  cases a with
  | arrayList =>
    rw [hone (b := .arrayList) (p := .list) rfl, hone (b := .list) (p := .collection) rfl,
      hnone (b := .collection) rfl]
    simp only [Builtin.above, List.mem_cons, List.not_mem_nil]
    grind
  | list =>
    rw [hone (b := .list) (p := .collection) rfl, hnone (b := .collection) rfl]
    simp only [Builtin.above, List.mem_cons, List.not_mem_nil]
    grind
  | player | mob =>
    rw [hone (p := .entity) rfl, hnone (b := .entity) rfl]
    simp only [Builtin.above, List.mem_cons, List.not_mem_nil]
    grind
  | gameMode | material | mobType | weather =>
    rw [hone (p := .enumeration) rfl, hnone (b := .enumeration) rfl]
    simp only [Builtin.above, List.mem_cons, List.not_mem_nil]
    grind
  | scalar k =>
    rw [hnone (by cases k <;> rfl)]
    simp [Builtin.above]
  | _ =>
    rw [hnone rfl]
    simp [Builtin.above]

theorem isA_builtins_iff {a b : Builtin} :
    h.isA (.builtin a) (.builtin b) ↔ b = a ∨ b = .object ∨ b ∈ a.above := by
  simp [isA_builtin_iff]

theorem eq_of_isA_builtin {a b : Builtin} (hb : b.isLowest)
    (ha : h.isA (.builtin a) (.builtin b)) : a = b := by
  rcases h.isA_builtins_iff.1 ha with rfl | rfl | habove
  · rfl
  · cases hb
  · -- Whatever lies above another class is not among the lowest.
    cases a <;> simp [Builtin.above] at habove <;> grind [Builtin.isLowest]

/-! ## Fitting -/

/-- A value that may stand where the class is expected: null, or an object of a class at or below
    it. -/
def Fits (c : Class) (v : Value) : Prop := ∀ o ∈ v, h.isA o.class_ c

/-- A value that a method of the given result class may give. -/
def FitsResult : Option Class → Value → Prop
  | none, v => v = none
  | some c, v => h.Fits c v

@[simp] theorem fits_none (c : Class) : h.Fits c none := fun _ ho => by cases ho

@[simp] theorem fits_some {c : Class} {o : Object} : h.Fits c (some o) ↔ h.isA o.class_ c := by
  simp [Fits]

variable {h} in
theorem fits_map {α : Type} {c : Class} {f : α → Object} (hf : ∀ a, h.isA (f a).class_ c)
    (x : Option α) : h.Fits c (x.map f) := by
  cases x with
  | none => exact h.fits_none c
  | some a => exact h.fits_some.2 (hf a)

end Hierarchy

end Chainwalk
