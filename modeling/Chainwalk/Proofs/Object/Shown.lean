import Mathlib
import Chainwalk.Object.View

/-!
# What objects show

An object shows itself as a value of some type only if it is the object that such a value stands
for. So a receiver and an argument are known from what a method takes them for.

* `Object.ofView?_of_shows?`: what an object shows as a whole;
* `Object.shows?_stack_iff` to `Object.shows?_entity_iff`: which objects show what;
* `receiver_eq_ok_iff`, `argument_eq_ok_iff`: when a method finds what it asks for.
-/

namespace Chainwalk

namespace Object

variable {h : Hierarchy} {o p : Object} {c : Class}

/-- What an object shows as a whole is the object itself. -/
theorem eq_of_view?_eq_whole (hv : o.view? h c = some (.whole p)) : o = p := by
  rw [view?.eq_def] at hv
  split at hv <;> grind

/-- What is not an entity is shown by the object as a whole. -/
theorem ofView?_of_shows? {α : Type} [Viewable α] {a : α}
    (hentity : ∀ e, (Viewable.ofView? (.entity e) : Option α) = none)
    (hr : o.shows? α h c = some a) : Viewable.ofView? (.whole o) = some a := by
  obtain ⟨p | e, hv, hr⟩ := Option.bind_eq_some_iff.1 hr
  · rwa [eq_of_view?_eq_whole hv]
  · rw [hentity] at hr
    contradiction

theorem shows?_stack_iff {r : Ref .stack} :
    o.shows? (Ref .stack) h .itemStack = some r ↔ o = .stack r := by
  constructor
  · intro hr
    have hview := ofView?_of_shows? (fun _ => rfl) hr
    simp only [Viewable.ofView?] at hview
    split at hview <;> grind
  · rintro rfl
    rfl

theorem shows?_inventory_iff {r : Ref .inventory} :
    o.shows? (Ref .inventory) h .inventory = some r ↔ o = .inventory r := by
  constructor
  · intro hr
    have hview := ofView?_of_shows? (fun _ => rfl) hr
    simp only [Viewable.ofView?] at hview
    split at hview <;> grind
  · rintro rfl
    rfl

theorem shows?_int_iff {n : Int32} :
    o.shows? Int32 h .int = some n ↔ ∃ tag, o = .value tag (.scalar .int n) := by
  constructor
  · intro hr
    have hview := ofView?_of_shows? (fun _ => rfl) hr
    simp only [Viewable.ofView?] at hview
    split at hview <;> grind
  · rintro ⟨tag, rfl⟩
    rfl

theorem shows?_long_iff {n : Int64} :
    o.shows? Int64 h .long = some n ↔ ∃ tag, o = .value tag (.scalar .long n) := by
  constructor
  · intro hr
    have hview := ofView?_of_shows? (fun _ => rfl) hr
    simp only [Viewable.ofView?] at hview
    split at hview <;> grind
  · rintro ⟨tag, rfl⟩
    rfl

theorem shows?_location_iff {l : Location} :
    o.shows? Location h .location = some l ↔ ∃ tag, o = .value tag (.location l) := by
  constructor
  · intro hr
    have hview := ofView?_of_shows? (fun _ => rfl) hr
    simp only [Viewable.ofView?] at hview
    split at hview <;> grind
  · rintro ⟨tag, rfl⟩
    rfl

/-- Only players and mobs have a part that is an entity. -/
theorem shows?_entity_iff {e : EntityRef} :
    o.shows? EntityRef h .entity = some e ↔ o = ofEntity e := by
  constructor
  · intro hr
    obtain ⟨p | e', hv, hr⟩ := Option.bind_eq_some_iff.1 hr
    · contradiction
    · obtain rfl := Option.some.inj hr
      rw [view?.eq_def] at hv
      split at hv <;> grind [ofEntity]
  · rintro rfl
    cases e <;> rfl

end Object

section

variable {α : Type} [Viewable α] {h : Hierarchy} {recv : Object} {args : List Value} {c : Class}
  {a : α}

theorem receiver_eq_ok_iff : receiver α h recv c = .ok a ↔ recv.shows? α h c = some a := by
  rw [receiver]
  split <;> simp_all

theorem argument_eq_ok_iff {index : Nat} :
    argument α h args index c = .ok a ↔
      ∃ o, args[index]? = some (some o) ∧ o.shows? α h c = some a := by
  rw [argument]
  split
  · simp_all
  · simp_all
  · rename_i o ho
    rw [ho]
    split <;> simp_all

end

end Chainwalk
