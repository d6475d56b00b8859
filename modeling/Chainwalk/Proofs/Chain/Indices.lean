import Mathlib
import Chainwalk.Chain

/-!
# Walks with indices that are kept

Once the index of a class has been looked up it is kept, and not built again. What is kept for a
class is its index, and this depends on nothing but the class. So a walk that looks into what is
kept leads to where it leads when every index is built anew, whatever has been looked up before;
afterwards the indices are kept of the classes that were known before and of those consulted.

* `MethodIndex.fetch`: looking up an index where indices are kept;
* `Engine.walk`: a walk that looks up its indices there;
* `Engine.walk_kept`: it is the walk that builds them.
-/

namespace Chainwalk

namespace MethodIndex

/-- Indices that are kept, by class. -/
abbrev Kept := List (Class × MethodIndex)

/-- The indices of some classes. -/
def kept (t : ClassTable) (classes : List Class) : Kept := classes.map fun c => (c, build t c)

/-- The index of a class, and the indices that are kept from then on: it is built only if it is not
    there. -/
def fetch (t : ClassTable) (indices : Kept) (c : Class) : MethodIndex × Kept :=
  match indices.lookup c with
  | some i => (i, indices)
  | none => (build t c, indices ++ [(c, build t c)])

variable (t : ClassTable) (classes : List Class)

theorem lookup_kept (c : Class) :
    (kept t classes).lookup c = if c ∈ classes then some (build t c) else none := by
  induction classes with
  | nil => rfl
  | cons d classes ih =>
    rw [kept, List.map_cons, List.lookup_cons]
    by_cases hc : c = d
    · simp [hc]
    · rw [beq_false_of_ne hc]
      exact ih.trans (by simp [hc])

theorem fetch_kept (c : Class) :
    fetch t (kept t classes) c = (build t c, kept t (known classes [c])) := by
  rw [fetch, lookup_kept, known, List.foldl_cons, List.foldl_nil]
  by_cases hc : c ∈ classes
  · rw [if_pos hc, if_pos hc]
  · rw [if_neg hc, if_neg hc, kept, kept, List.map_append, List.map_singleton]

end MethodIndex

namespace Engine

open MethodIndex

/-- Walks the tokens from the value at hand, with indices that are kept. -/
def walk (e : Engine) (tokens : List String) (current : Value) (s : Store) (indices : Kept) :
    Except Halt Value × Store × Kept :=
  match tokens, current with
  | [], v => (.ok v, s, indices)
  | token :: _, none => (.error (.callOnNull token), s, indices)
  | token :: rest, some recv =>
    let (index, indices) := fetch e.table indices recv.class_
    match index.get? token with
    | none => (.error (.unknownMethod token (e.hierarchy.name recv.class_)), s, indices)
    | some m =>
      match e.segment token m (rest.take m.params.length) recv s with
      | (.error halt, s) => (.error halt, s, indices)
      | (.ok v, s) => walk e (rest.drop m.params.length) v s indices
termination_by tokens.length
decreasing_by simp only [List.length_cons, List.length_drop]; omega

/-- A walk with the indices of some classes is the walk itself. -/
theorem walk_kept (e : Engine) (tokens : List String) (current : Value) (s : Store)
    (classes : List Class) :
    e.walk tokens current s (kept e.table classes) =
      let r := e.run tokens current s
      (r.outcome, r.store, kept e.table (known classes r.consulted)) := by
  fun_induction run e tokens current s generalizing classes with
  | case1 s v => rw [walk]; rfl
  | case2 s token rest => rw [walk]; rfl
  | case3 s token rest recv hm =>
    rw [walk, fetch_kept]
    dsimp only
    rw [hm]
  | case4 s token rest recv m hm halt t hsegment =>
    rw [walk, fetch_kept]
    dsimp only
    rw [hm]
    dsimp only
    rw [hsegment]
  | case5 s token rest recv m hm v t hsegment r ih =>
    rw [walk, fetch_kept]
    dsimp only
    rw [hm]
    dsimp only
    rw [hsegment]
    exact ih _

end Engine

end Chainwalk
