import Mathlib
import Chainwalk.Realm.Table

/-!
# Changes of tables

Changes of one entry after another are one change, and only what a change makes of the entry that is
there matters.

* `Table.modify_modify`, `Table.modify_id`: changes put together;
* `Table.modify_congr`, `Table.modify_insert_next`: changes of an entry that is known;
* `Table.get?_foldl_modify`: the same change of many entries;
* `Table.foldl_modify_foldl_modify`: two changes of many entries, if either may come first.
-/

namespace Chainwalk

namespace Table

variable {kind : Resident} {α : Type} {t : Table kind α} {r : Ref kind} {a : α} {f g : α → α}

theorem modify_id (t : Table kind α) (r : Ref kind) : t.modify r id = t := by
  refine congrArg Table.mk (Array.ext_getElem? fun j => ?_)
  simp only [Array.getElem?_modify, Option.map_id, id, ite_self]

theorem modify_modify (t : Table kind α) (r : Ref kind) (f g : α → α) :
    (t.modify r f).modify r g = t.modify r (g ∘ f) := by
  refine congrArg Table.mk (Array.ext_getElem? fun j => ?_)
  simp only [modify, Array.getElem?_modify]
  split
  · simp [Option.map_map, Function.comp_def]
  · rfl

/-- Only what a function makes of the entry that is there matters. -/
theorem modify_congr (ha : t.get? r = some a) (hfg : f a = g a) : t.modify r f = t.modify r g := by
  have ha' : t.entries[r.index]? = some (some a) := Option.join_eq_some_iff.1 ha
  refine congrArg Table.mk (Array.ext_getElem? fun j => ?_)
  rw [Array.getElem?_modify, Array.getElem?_modify]
  split
  · rename_i hj
    rw [← hj, ha', Option.map_some, Option.map_some, Option.map_some, Option.map_some, hfg]
  · rfl

theorem modify_insert_next (t : Table kind α) (a : α) (f : α → α) :
    (t.insert a).modify t.next f = t.insert (f a) := by
  simp only [insert, modify, next, mk.injEq]
  refine Array.ext_getElem? fun i => ?_
  rw [Array.getElem?_modify, Array.getElem?_push, Array.getElem?_push]
  grind

/-- The entries behind different references are changed, each once. -/
theorem get?_foldl_modify {rs : List (Ref kind)} (hrs : rs.Nodup) (f : α → α) (t : Table kind α)
    (q : Ref kind) :
    (rs.foldl (fun t r => t.modify r f) t).get? q =
      if q ∈ rs then (t.get? q).map f else t.get? q := by
  induction rs generalizing t with
  | nil => rfl
  | cons r rs ih =>
    obtain ⟨hr, hrs⟩ := List.nodup_cons.1 hrs
    rw [List.foldl_cons, ih hrs, get?_modify]
    by_cases hq : q = r
    · subst hq
      simp [hr]
    · simp [hq]

/-- Changes of entries may be made in either order if changes of one entry may. -/
theorem modify_comm (hgf : Function.Commute g f) (t : Table kind α) (q r : Ref kind) :
    (t.modify q f).modify r g = (t.modify r g).modify q f := by
  obtain ⟨i⟩ := q
  obtain ⟨j⟩ := r
  by_cases hij : i = j
  · subst hij
    rw [modify_modify, modify_modify, hgf.comp_eq]
  · refine congrArg Table.mk (Array.ext_getElem? fun k => ?_)
    simp only [modify, Array.getElem?_modify]
    split <;> split <;> grind

theorem modify_foldl_modify (hgf : Function.Commute g f) (t : Table kind α) (r : Ref kind)
    (rs : List (Ref kind)) :
    (rs.foldl (fun t q => t.modify q f) t).modify r g =
      rs.foldl (fun t q => t.modify q f) (t.modify r g) := by
  induction rs generalizing t with
  | nil => rfl
  | cons q rs ih => rw [List.foldl_cons, List.foldl_cons, ih, modify_comm hgf]

/-- What is done to many entries one change after the other is done to each of them at once. -/
theorem foldl_modify_foldl_modify (hgf : Function.Commute g f) (t : Table kind α)
    (rs : List (Ref kind)) :
    rs.foldl (fun t r => t.modify r g) (rs.foldl (fun t r => t.modify r f) t) =
      rs.foldl (fun t r => t.modify r (g ∘ f)) t := by
  induction rs generalizing t with
  | nil => rfl
  | cons r rs ih =>
    rw [List.foldl_cons, List.foldl_cons, List.foldl_cons, modify_foldl_modify hgf, modify_modify,
      ih]

end Table

end Chainwalk
