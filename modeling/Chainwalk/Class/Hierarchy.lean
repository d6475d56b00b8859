import Chainwalk.Class.Basic

/-!
# Hierarchies

A `Hierarchy` is the built-in classes with the ones that a host has defined. A class
may only extend classes that are there before it, so no class lies above itself: every
supertype has a smaller `rank`.

* `Hierarchy.isA`: whether instances of one class may stand where another is expected;
* `Hierarchy.linearization`: a class and all that lies above it, each before its
  supertypes, the root last.
-/

namespace Chainwalk

/-- Whether a class is there once `count` classes are defined. -/
def Class.definedWithin (count : Nat) : Class → Bool
  | .builtin _ => true
  | .defined n => n < count

/-- The classes that there are: the built-in ones and those in `defined`. -/
structure Hierarchy where
  defined : Array ClassInfo
  /-- A class only extends classes that are there before it. -/
  supers_before : ∀ (i : Nat) (h : i < defined.size),
    ∀ c ∈ defined[i].supers, c.definedWithin i

namespace Hierarchy

/-- The built-in classes alone. -/
def builtins : Hierarchy := ⟨#[], fun i h => absurd h (by simp)⟩

/-- The hierarchy with one more class, if all that it extends is there. -/
def define? (h : Hierarchy) (info : ClassInfo) : Option Hierarchy :=
  if ok : ∀ c ∈ info.supers, c.definedWithin h.defined.size then
    some
      { defined := h.defined.push info
        supers_before := by
          intro i hi c hc
          rw [Array.getElem_push] at hc
          split at hc
          · exact h.supers_before i ‹_› c hc
          · have : i = h.defined.size := by simp at hi; omega
            exact this ▸ ok c hc }
  else none

variable (h : Hierarchy)

/-- What is declared of a class. Nothing is declared of a class that is not there. -/
def info : Class → ClassInfo
  | .builtin b => b.info
  | .defined n => h.defined[n]?.getD (.concrete "" "")

/-- The simple name of a class. -/
def name (c : Class) : String := (h.info c).name

/-- The qualified name of a class. -/
def path (c : Class) : String := (h.info c).path

/-- The direct supertypes of a class. -/
def supers (c : Class) : List Class := (h.info c).supers

/-- The height of a class: everything above it is lower. -/
def rank : Class → Nat
  | .builtin b => b.depth
  | .defined n => 3 + n

/-- A direct supertype is lower. -/
theorem rank_lt_of_mem_supers {c s : Class} (hs : s ∈ h.supers c) : rank s < rank c := by
  cases c with
  | builtin b =>
    obtain ⟨a, rfl, ha⟩ := Builtin.depth_lt_of_mem_supers hs
    exact ha
  | defined n =>
    by_cases hn : n < h.defined.size
    · have hs' : s ∈ h.defined[n].supers := by
        simpa [supers, info, hn] using hs
      have hb := h.supers_before n hn s hs'
      cases s with
      | builtin b =>
        have := b.depth_le_two
        simp only [rank]
        omega
      | defined k =>
        simp only [Class.definedWithin, decide_eq_true_eq] at hb
        simp only [rank]
        omega
    · simp [supers, info, hn, ClassInfo.concrete] at hs

/-- Whether an instance of `c` may stand where `d` is expected: `d` is `c`, the root,
    or above `c`. -/
def isA (c d : Class) : Bool :=
  c = d || d = .object || (h.supers c).attach.any fun s => isA s.1 d
termination_by rank c
decreasing_by exact h.rank_lt_of_mem_supers s.2

/-- The classes from `c` upwards that are not in `done` yet, before those of `done`.
    The root is left out. -/
def visit (c : Class) (done : List Class) : List Class :=
  if c = .object ∨ c ∈ done then done
  else c :: (h.supers c).attach.foldr (fun s acc => visit s.1 acc) done
termination_by rank c
decreasing_by exact h.rank_lt_of_mem_supers s.2

/-- A class and all that lies above it, each once and before its supertypes; the root
    comes last. -/
def linearization (c : Class) : List Class := h.visit c [] ++ [.object]

theorem isA_eq (c d : Class) :
    h.isA c d = (c = d || d = .object || (h.supers c).any fun s => h.isA s d) := by
  rw [isA]
  congr 1
  rw [Bool.eq_iff_iff]
  simp

@[simp] theorem isA_self (c : Class) : h.isA c c := by
  rw [isA_eq]; simp

@[simp] theorem isA_object (c : Class) : h.isA c .object := by
  rw [isA_eq]; simp

theorem visit_eq (c : Class) (done : List Class) :
    h.visit c done =
      if c = .object ∨ c ∈ done then done else c :: (h.supers c).foldr h.visit done := by
  rw [visit]
  simp only [List.foldr_attach]

end Hierarchy

end Chainwalk
