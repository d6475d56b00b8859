import Chainwalk.Proofs.Typing.Classes

/-!
# Linearizations

The linearization of a class is made by visits, each of which puts a class in front of what lies
above it. Whatever has been visited is *settled*: with a class all that lies above it is there,
further down. A class that is put in front of such a list is new to it, so nothing further down
lies below it, and the list stays settled.

* `Hierarchy.visit_induction`: what holds of a list holds after a visit, if it outlasts putting a
  class in front of its supertypes;
* `Hierarchy.settled_visit`: visits keep lists settled;
* `Hierarchy.sublist_foldr_visit`: classes are visited in their order, if none of them lies above
  one before it;
* `Hierarchy.linearization_settled`: what stands in a linearization, and in which order.
-/

namespace Chainwalk

namespace Hierarchy

variable (h : Hierarchy)

/-! ## Above and below -/

theorem isA_object_iff {d : Class} : h.isA .object d ↔ d = .object := by
  rw [isA_iff, show h.supers .object = [] from rfl]
  simp

/-- What lies above is not higher in the hierarchy. -/
theorem rank_le_of_isA {c d : Class} (hd : h.isA c d) : rank d ≤ rank c := by
  induction hn : rank c using Nat.strongRecOn generalizing c with
  | _ n ih =>
    subst hn
    rcases h.isA_iff.1 hd with rfl | rfl | ⟨s, hs, hsd⟩
    · exact le_rfl
    · exact Nat.zero_le _
    · have hlower := h.rank_lt_of_mem_supers hs
      exact (ih _ hlower hsd rfl).trans hlower.le

theorem isA_trans {a b c : Class} (hab : h.isA a b) (hbc : h.isA b c) : h.isA a c := by
  induction hn : rank a using Nat.strongRecOn generalizing a with
  | _ n ih =>
    rcases h.isA_iff.1 hab with rfl | rfl | ⟨s, hs, hsb⟩
    · exact hbc
    · obtain rfl := h.isA_object_iff.1 hbc
      exact h.isA_object a
    · exact h.isA_of_mem_supers hs (ih _ (hn ▸ h.rank_lt_of_mem_supers hs) hsb rfl)

/-- No supertype of a class lies below it. -/
theorem not_isA_of_mem_supers {c s : Class} (hs : s ∈ h.supers c) : ¬h.isA s c := fun hc =>
  absurd (h.rank_le_of_isA hc) (not_le.2 (h.rank_lt_of_mem_supers hs))

/-! ## Visits -/

/-- A class has been visited after it was visited. -/
theorem mem_visit_self (c : Class) (done : List Class) : c = .object ∨ c ∈ h.visit c done := by
  rw [visit_eq]
  split
  · rename_i hc
    exact hc
  · exact .inr List.mem_cons_self

theorem foldr_visit_cons (s : Class) (ss done : List Class) :
    (s :: ss).foldr h.visit done = h.visit s (ss.foldr h.visit done) := rfl

/-- Nothing that has been visited is lost. -/
theorem suffix_visit (c : Class) (done : List Class) : done <:+ h.visit c done := by
  induction hn : rank c using Nat.strongRecOn generalizing c done with
  | _ n ih =>
    rw [visit_eq]
    split
    · exact List.suffix_rfl
    · suffices hfold : ∀ ss : List Class, (∀ s ∈ ss, s ∈ h.supers c) →
          done <:+ ss.foldr h.visit done from
        (hfold _ fun _ hs => hs).trans (List.suffix_cons _ _)
      intro ss
      induction ss with
      | nil => exact fun _ => List.suffix_rfl
      | cons s ss ihs =>
        intro hss
        have hs := hss s List.mem_cons_self
        exact (ihs fun t ht => hss t (List.mem_cons_of_mem _ ht)).trans
          (ih _ (hn ▸ h.rank_lt_of_mem_supers hs) s _ rfl)

theorem suffix_foldr_visit (ss done : List Class) : done <:+ ss.foldr h.visit done := by
  induction ss with
  | nil => exact List.suffix_rfl
  | cons s ss ih => exact ih.trans (h.suffix_visit s _)

theorem mem_foldr_visit {ss : List Class} (done : List Class) {s : Class} (hs : s ∈ ss) :
    s = .object ∨ s ∈ ss.foldr h.visit done := by
  induction ss with
  | nil => cases hs
  | cons t ss ih =>
    rw [foldr_visit_cons]
    rcases List.mem_cons.1 hs with rfl | hs
    · exact h.mem_visit_self s _
    · exact (ih hs).imp_right fun hmem => (h.suffix_visit t _).subset hmem

/-- What visits of some classes find lies above one of them. -/
theorem isA_of_mem_foldr_visit {ss done : List Class} {d : Class}
    (hd : d ∈ ss.foldr h.visit done) : d ∈ done ∨ ∃ s ∈ ss, h.isA s d := by
  induction ss with
  | nil => exact .inl hd
  | cons s ss ih =>
    rcases h.isA_of_mem_visit hd with hd | hd
    · exact (ih hd).imp_right fun ⟨t, ht, htd⟩ => ⟨t, List.mem_cons_of_mem _ ht, htd⟩
    · exact .inr ⟨s, List.mem_cons_self, hd⟩

/-- A visit puts classes in front of their supertypes, one after the other. -/
theorem visit_induction {P : List Class → Prop}
    (cons : ∀ c done, c ≠ .object → c ∉ done → (∀ s ∈ h.supers c, s = .object ∨ s ∈ done) →
      P done → P (c :: done))
    (c : Class) {done : List Class} (hdone : P done) : P (h.visit c done) := by
  induction hn : rank c using Nat.strongRecOn generalizing c done with
  | _ n ih =>
    rw [visit_eq]
    split
    · exact hdone
    · rename_i hc
      rw [not_or] at hc
      refine cons c _ hc.1 (fun hmem => ?_) (fun s hs => h.mem_foldr_visit done hs) ?_
      · -- What the visits of the supertypes find lies above them, and the class does not.
        rcases h.isA_of_mem_foldr_visit hmem with hmem | ⟨s, hs, hsc⟩
        · exact hc.2 hmem
        · exact h.not_isA_of_mem_supers hs hsc
      · suffices hfold : ∀ ss : List Class, (∀ s ∈ ss, s ∈ h.supers c) →
            P (ss.foldr h.visit done) from hfold _ fun _ hs => hs
        intro ss
        induction ss with
        | nil => exact fun _ => hdone
        | cons s ss ihs =>
          intro hss
          have hs := hss s List.mem_cons_self
          exact ih _ (hn ▸ h.rank_lt_of_mem_supers hs) s
            (ihs fun t ht => hss t (List.mem_cons_of_mem _ ht)) rfl

/-! ## Settled lists -/

/-- A list of classes that has with each all that lies above it, further down. The root is left
    out. -/
structure Settled (l : List Class) : Prop where
  root : .object ∉ l
  above : ∀ c ∈ l, ∀ d, h.isA c d → d = .object ∨ d ∈ l
  order : l.Pairwise fun c d => ¬h.isA d c

variable {h}

theorem settled_nil : h.Settled [] where
  root := List.not_mem_nil
  above _ hc := absurd hc List.not_mem_nil
  order := .nil

theorem Settled.cons {l : List Class} (hl : h.Settled l) {c : Class} (hroot : c ≠ .object)
    (hc : c ∉ l) (hsupers : ∀ s ∈ h.supers c, s = .object ∨ s ∈ l) : h.Settled (c :: l) where
  root := by
    rw [List.mem_cons, not_or]
    exact ⟨hroot.symm, hl.root⟩
  above := by
    intro b hb d hd
    rw [List.mem_cons]
    rcases List.mem_cons.1 hb with rfl | hb
    · rcases h.isA_iff.1 hd with rfl | rfl | ⟨s, hs, hsd⟩
      · exact .inr (.inl rfl)
      · exact .inl rfl
      · rcases hsupers s hs with rfl | hs
        · exact .inl (h.isA_object_iff.1 hsd)
        · exact (hl.above s hs d hsd).imp_right .inr
    · exact (hl.above b hb d hd).imp_right .inr
  order := by
    refine List.pairwise_cons.2 ⟨fun d hd hdc => ?_, hl.order⟩
    -- Otherwise the class would have been there with what lies below it.
    exact (hl.above d hd c hdc).elim hroot hc

variable (h)

theorem settled_visit (c : Class) {done : List Class} (hdone : h.Settled done) :
    h.Settled (h.visit c done) :=
  h.visit_induction (fun _ _ hroot hc hsupers hl => hl.cons hroot hc hsupers) c hdone

theorem mem_visit_nil_iff {c d : Class} : d ∈ h.visit c [] ↔ d ≠ .object ∧ h.isA c d := by
  have hsettled := h.settled_visit c settled_nil
  constructor
  · intro hd
    exact ⟨fun hroot => hsettled.root (hroot ▸ hd),
      (h.isA_of_mem_visit hd).resolve_left List.not_mem_nil⟩
  · rintro ⟨hroot, hd⟩
    rcases h.mem_visit_self c [] with rfl | hc
    · exact absurd (h.isA_object_iff.1 hd) hroot
    · exact (hsettled.above c hc d hd).resolve_left hroot

/-- Classes of which none lies above one before it are found in their order. -/
theorem sublist_foldr_visit {ss : List Class} (hroot : .object ∉ ss)
    (hss : ss.Pairwise fun s t => ¬h.isA t s) : ss.Sublist (ss.foldr h.visit []) := by
  induction ss with
  | nil => exact .slnil
  | cons s ss ih =>
    rw [List.mem_cons, not_or] at hroot
    obtain ⟨hs, hrest⟩ := List.pairwise_cons.1 hss
    -- The visits of the later ones have not come to this one.
    have hnew : s ∉ ss.foldr h.visit [] := fun hmem => by
      rcases h.isA_of_mem_foldr_visit hmem with hmem | ⟨t, ht, hts⟩
      · cases hmem
      · exact hs t ht hts
    have hgoes : ¬(s = .object ∨ s ∈ ss.foldr h.visit []) := not_or.2 ⟨Ne.symm hroot.1, hnew⟩
    rw [foldr_visit_cons, visit_eq, if_neg hgoes]
    exact ((ih hroot.2 hrest).trans (h.suffix_foldr_visit _ _).sublist).cons_cons s

/-! ## Linearizations -/

theorem linearization_eq_cons {c : Class} (hc : c ≠ .object) :
    h.linearization c = c :: ((h.supers c).foldr h.visit [] ++ [.object]) := by
  rw [linearization, visit_eq, if_neg (not_or.2 ⟨hc, List.not_mem_nil⟩), List.cons_append]

theorem linearization_object : h.linearization .object = [.object] := by
  rw [linearization, visit_eq, if_pos (.inl rfl), List.nil_append]

theorem mem_linearization_iff {c d : Class} : d ∈ h.linearization c ↔ h.isA c d := by
  rw [linearization, List.mem_append, mem_visit_nil_iff, List.mem_singleton]
  constructor
  · rintro (⟨-, hd⟩ | rfl)
    · exact hd
    · exact h.isA_object c
  · intro hd
    exact (em (d = .object)).symm.imp_left fun hroot => ⟨hroot, hd⟩

/-- Nothing in a linearization lies below what stands before it. -/
theorem pairwise_linearization (c : Class) :
    (h.linearization c).Pairwise fun d e => ¬h.isA e d := by
  have hsettled := h.settled_visit c settled_nil
  refine List.pairwise_append.2 ⟨hsettled.order, List.pairwise_singleton _ _, ?_⟩
  intro d hd e he hed
  rw [List.mem_singleton.1 he, isA_object_iff] at hed
  exact hsettled.root (hed ▸ hd)

theorem nodup_linearization (c : Class) : (h.linearization c).Nodup :=
  (h.pairwise_linearization c).imp fun hed heq => hed (by rw [heq]; exact h.isA_self _)

/-- A class stands in a linearization before all others that lie above it. -/
theorem pair_sublist_linearization {c d e : Class} (hd : d ∈ h.linearization c)
    (he : e ∈ h.linearization c) (hne : d ≠ e) (hde : h.isA d e) :
    [d, e].Sublist (h.linearization c) := by
  obtain ⟨before, after, hsplit⟩ := List.append_of_mem hd
  have horder := h.pairwise_linearization c
  rw [hsplit] at he horder ⊢
  obtain ⟨-, -, hbefore⟩ := List.pairwise_append.1 horder
  rcases List.mem_append.1 he with he | he
  · exact absurd hde (hbefore e he d List.mem_cons_self)
  · have he := (List.mem_cons.1 he).resolve_left hne.symm
    exact ((List.singleton_sublist.2 he).cons_cons d).trans (List.sublist_append_right _ _)

/-- The linearization of a class has exactly the classes that it lies below, each once, from the
    class itself to the root, and each before all others that it lies below. The direct supertypes
    of the class stand in it as they are declared, if none of them is the root or lies below
    another. -/
theorem linearization_settled (c : Class) :
    (∀ d, d ∈ h.linearization c ↔ h.isA c d) ∧
    (h.linearization c).Nodup ∧
    (h.linearization c).head? = some c ∧
    (h.linearization c).getLast? = some .object ∧
    (∀ d ∈ h.linearization c, ∀ e ∈ h.linearization c, d ≠ e → h.isA d e →
      [d, e].Sublist (h.linearization c)) ∧
    (.object ∉ h.supers c → (h.supers c).Pairwise (fun s t => ¬h.isA s t ∧ ¬h.isA t s) →
      (h.supers c).Sublist (h.linearization c)) := by
  refine ⟨fun d => h.mem_linearization_iff, h.nodup_linearization c, ?first, ?last,
    fun d hd e he => h.pair_sublist_linearization hd he, ?declared⟩
  case first =>
    by_cases hc : c = .object
    · rw [hc, linearization_object]
      rfl
    · rw [linearization_eq_cons h hc]
      rfl
  case last => rw [linearization, List.getLast?_append_of_ne_nil _ (List.cons_ne_nil _ _)]; rfl
  case declared =>
    intro hroot hunrelated
    by_cases hc : c = .object
    · rw [hc, show h.supers .object = [] from rfl]
      exact List.nil_sublist _
    · rw [linearization_eq_cons h hc]
      exact ((h.sublist_foldr_visit hroot (hunrelated.imp fun hst => hst.2)).trans
        (List.sublist_append_left _ _)).cons _

/-- A class with two supertypes that share one. -/
theorem linearization_settled_diamond :
    let h : Hierarchy := ⟨#[.interface "Shared" "test::Shared",
      .extending [.defined 0] (.interface "Left" "test::Left"),
      .extending [.defined 0] (.interface "Right" "test::Right"),
      .extending [.defined 1, .defined 2] (.concrete "Join" "test::Join")], by decide⟩
    .object ∉ h.supers (.defined 3) ∧
      (h.supers (.defined 3)).Pairwise (fun s t => ¬h.isA s t ∧ ¬h.isA t s) ∧
      (h.supers (.defined 3)).Sublist (h.linearization (.defined 3)) ∧
      h.linearization (.defined 3) =
        [.defined 3, .defined 1, .defined 2, .defined 0, .object] := by
  intro h
  have hroot : .object ∉ h.supers (.defined 3) := by decide
  have hunrelated : (h.supers (.defined 3)).Pairwise fun s t => ¬h.isA s t ∧ ¬h.isA t s := by
    have hleft : h.isA (.defined 1) (.defined 2) = false := by cbv
    have hright : h.isA (.defined 2) (.defined 1) = false := by cbv
    exact List.pairwise_pair.2 ⟨Bool.eq_false_iff.1 hleft, Bool.eq_false_iff.1 hright⟩
  have hdeclared := (h.linearization_settled (.defined 3)).2.2.2.2.2 hroot hunrelated
  exact ⟨hroot, hunrelated, hdeclared, by cbv⟩

end Hierarchy

end Chainwalk
