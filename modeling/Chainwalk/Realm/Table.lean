/-!
# References and tables

What lives in the realm of a server is kept in *tables*, one for each kind of
resident, and referred to by number. A reference stays valid to hold after its entry
is released; looking it up then finds nothing.

* `Table.get?_insert_self`, `Table.get?_insert_of_get?`: a new entry is found and
  leaves the others alone;
* `Table.get?_modify`: what a change does to every entry.
-/

namespace Chainwalk

/-- The kinds of things that live in the realm. -/
inductive Resident
  | server
  | world
  | player
  | mob
  | inventory
  | stack
  deriving DecidableEq, Repr

/-- A reference to a resident of a kind. -/
structure Ref (kind : Resident) where
  index : Nat
  deriving DecidableEq, Repr

/-- The residents of a kind, the released ones as gaps. -/
structure Table (kind : Resident) (α : Type) where
  entries : Array (Option α)

namespace Table

variable {kind : Resident} {α : Type}

/-- The table without entries. -/
def empty : Table kind α := ⟨#[]⟩

variable (t : Table kind α)

/-- The entry behind a reference, if it is still there. -/
def get? (r : Ref kind) : Option α := t.entries[r.index]?.join

/-- The reference that the next new entry gets. -/
def next : Ref kind := ⟨t.entries.size⟩

/-- The table with a new entry, found under `t.next`. -/
def insert (a : α) : Table kind α := ⟨t.entries.push (some a)⟩

/-- The table with the entry behind a reference changed, if it is there. -/
def modify (r : Ref kind) (f : α → α) : Table kind α := ⟨t.entries.modify r.index (Option.map f)⟩

/-- The table without the entry behind a reference. -/
def release (r : Ref kind) : Table kind α := ⟨t.entries.modify r.index fun _ => none⟩

/-- The references to the entries that are there, in order. -/
def refs : List (Ref kind) :=
  ((List.range t.entries.size).map Ref.mk).filter fun r => (t.get? r).isSome

@[simp] theorem get?_empty (r : Ref kind) : (empty : Table kind α).get? r = none := by
  simp [get?, empty]

/-- Nothing is found under the reference that is next. -/
theorem get?_next : t.get? t.next = none := by
  simp [get?, next]

@[simp] theorem get?_insert_self (a : α) : (t.insert a).get? t.next = some a := by
  simp [get?, insert, next]

theorem get?_insert (a : α) (r : Ref kind) :
    (t.insert a).get? r = if r = t.next then some a else t.get? r := by
  obtain ⟨i⟩ := r
  simp only [get?, insert, next, Ref.mk.injEq, Array.getElem?_push]
  split <;> simp

theorem get?_insert_of_get? {a b : α} {r : Ref kind} (h : t.get? r = some b) :
    (t.insert a).get? r = some b := by
  rw [get?_insert, if_neg, h]
  rintro rfl
  rw [get?_next] at h
  contradiction

theorem get?_modify (r s : Ref kind) (f : α → α) :
    (t.modify r f).get? s = if s = r then (t.get? s).map f else t.get? s := by
  obtain ⟨i⟩ := r
  obtain ⟨j⟩ := s
  simp only [get?, modify, Ref.mk.injEq, Array.getElem?_modify]
  by_cases h : i = j
  · subst h
    cases t.entries[i]? with
    | none => simp
    | some x => cases x <;> simp
  · simp [h, Ne.symm h]

end Table

end Chainwalk
