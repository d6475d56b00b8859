import Chainwalk.Proofs.Class.Linearization

/-!
# Unfoldings

Written out in full, a class is followed by its direct supertypes as they are declared, each of them
by its own, and so on: this is its *unfolding*, in which a supertype is mentioned once for each way
up to it. The linearization of the class has everything where the unfolding mentions it last. So of
two supertypes the one stands first whose last mention comes first.

* `Followed`: every mention of one thing in a list is followed by a mention of another;
* `pair_sublist_dedup_iff`: what that means for the last mentions;
* `Hierarchy.linearization_eq_dedup`: linearizations are last mentions in unfoldings;
* `Hierarchy.pair_sublist_linearization_iff`: which of two classes stands first;
* `Hierarchy.InDeclaredOrder`: orderings that have the supertypes of all classes as declared;
* `Hierarchy.inDeclaredOrder_linearization_iff`: when the linearization is one;
* `Hierarchy.InDeclaredOrder.pair_sublist_linearization`: the supertypes of the class itself stand
  as declared, if there is such an ordering at all.
-/

namespace Chainwalk

/-! ## Last mentions -/

section Mentions

variable {α : Type} {l l' : List α} {a b x : α}

/-- Whether in a list every mention of `a` is followed by a mention of `b`. -/
def Followed (l : List α) (a b : α) : Prop := ∀ rest, a :: rest <:+ l → b ∈ rest

theorem followed_cons_iff : Followed (x :: l) a b ↔ (a = x → b ∈ l) ∧ Followed l a b := by
  simp only [Followed, List.suffix_cons_iff]
  constructor
  · intro h
    exact ⟨fun hax => h l (.inl (by rw [hax])), fun rest hrest => h rest (.inr hrest)⟩
  · rintro ⟨hhead, htail⟩ rest (heq | hrest)
    · obtain ⟨rfl, rfl⟩ := List.cons.inj heq
      exact hhead rfl
    · exact htail rest hrest

theorem followed_of_not_mem (ha : a ∉ l) : Followed l a b := fun _ hrest =>
  absurd (hrest.subset List.mem_cons_self) ha

theorem Followed.mem (h : Followed l a b) (ha : a ∈ l) : b ∈ l := by
  obtain ⟨before, after, rfl⟩ := List.append_of_mem ha
  have hb := h after (List.suffix_append _ _)
  exact List.mem_append_right _ (List.mem_cons_of_mem _ hb)

/-- What is mentioned in the end follows all that is not. -/
theorem followed_append (ha : a ∉ l') (hb : b ∈ l') : Followed (l ++ l') a b := by
  induction l with
  | nil => exact followed_of_not_mem ha
  | cons x l ih => exact followed_cons_iff.2 ⟨fun _ => List.mem_append_right _ hb, ih⟩

theorem pair_sublist_append (ha : a ∈ l) (hb : b ∈ l') : [a, b].Sublist (l ++ l') :=
  (List.singleton_sublist.2 ha).append (List.singleton_sublist.2 hb)

theorem pair_sublist_or (ha : a ∈ l) (hb : b ∈ l) (hne : a ≠ b) :
    [a, b].Sublist l ∨ [b, a].Sublist l := by
  obtain ⟨before, after, rfl⟩ := List.append_of_mem ha
  rcases List.mem_append.1 hb with hb | hb
  · exact .inr (pair_sublist_append hb List.mem_cons_self)
  · have hb := (List.mem_cons.1 hb).resolve_left hne.symm
    exact .inl (((List.singleton_sublist.2 hb).cons_cons a).trans (List.sublist_append_right _ _))

/-- Without repetition nothing stands both before and after something else. -/
theorem eq_of_pair_sublist (hl : l.Nodup) (hab : [a, b].Sublist l) (hba : [b, a].Sublist l) :
    a = b := by
  induction l with
  | nil => cases hab
  | cons x l ih =>
    obtain ⟨hx, hl⟩ := List.nodup_cons.1 hl
    have hnot {u v} (huv : [u, v].Sublist l) (heq : v = x) : False :=
      hx (heq ▸ huv.subset (List.mem_cons_of_mem _ List.mem_cons_self))
    rcases List.sublist_cons_iff.1 hab with hab | ⟨_, heq, -⟩
    · rcases List.sublist_cons_iff.1 hba with hba | ⟨_, heq, -⟩
      · exact ih hl hab hba
      · exact (hnot hab (List.cons.inj heq).1).elim
    · rcases List.sublist_cons_iff.1 hba with hba | ⟨_, heq', -⟩
      · exact (hnot hba (List.cons.inj heq).1).elim
      · exact (List.cons.inj heq).1.trans (List.cons.inj heq').1.symm

variable [DecidableEq α]

/-- Of what a list mentions, that comes first whose last mention comes first. -/
theorem pair_sublist_dedup_iff (ha : a ∈ l) : [a, b].Sublist l.dedup ↔ Followed l a b := by
  induction l with
  | nil => cases ha
  | cons x l ih =>
    rw [followed_cons_iff]
    by_cases hx : x ∈ l
    · rw [List.dedup_cons_of_mem hx]
      have ha' : a ∈ l := (List.mem_cons.1 ha).elim (fun heq => heq ▸ hx) id
      rw [ih ha']
      exact ⟨fun h => ⟨fun _ => h.mem ha', h⟩, fun h => h.2⟩
    · rw [List.dedup_cons_of_notMem hx]
      rcases List.mem_cons.1 ha with rfl | ha'
      · -- This is the last mention, so all that comes later does follow.
        rw [List.cons_sublist_cons, List.singleton_sublist, List.mem_dedup]
        exact ⟨fun hb => ⟨fun _ => hb, followed_of_not_mem hx⟩, fun h => h.1 rfl⟩
      · have hne : a ≠ x := fun heq => hx (heq ▸ ha')
        rw [List.sublist_cons_iff, ih ha']
        constructor
        · rintro (h | ⟨r, heq, -⟩)
          · exact ⟨fun heq => absurd heq hne, h⟩
          · exact absurd (List.cons.inj heq).1 hne
        · exact fun h => .inl h.2

end Mentions

namespace Hierarchy

variable (h : Hierarchy)

/-! ## Unfoldings -/

/-- A class, then what each of its direct supertypes unfolds to. -/
def unfolding (c : Class) : List Class :=
  c :: (h.supers c).attach.flatMap fun s => unfolding s.1
termination_by rank c
decreasing_by exact h.rank_lt_of_mem_supers s.2

theorem unfolding_eq (c : Class) : h.unfolding c = c :: (h.supers c).flatMap h.unfolding := by
  rw [unfolding]
  simp only [List.flatMap_subtype, List.unattach_attach]

/-- All that is mentioned of what lies above a class, the root in the end. -/
def mentions (c : Class) : List Class := h.unfolding c ++ [.object]

theorem mem_unfolding_self (c : Class) : c ∈ h.unfolding c := by
  rw [unfolding_eq]
  exact List.mem_cons_self

/-- What a class unfolds to lies above it. -/
theorem isA_of_mem_unfolding {c d : Class} (hd : d ∈ h.unfolding c) : h.isA c d := by
  induction hn : rank c using Nat.strongRecOn generalizing c with
  | _ n ih =>
    rw [unfolding_eq] at hd
    rcases List.mem_cons.1 hd with rfl | hd
    · exact h.isA_self d
    · obtain ⟨s, hs, hd⟩ := List.mem_flatMap.1 hd
      exact h.isA_of_mem_supers hs (ih _ (hn ▸ h.rank_lt_of_mem_supers hs) hd rfl)

/-! ## Linearizations as last mentions -/

variable {h}

theorem Settled.mem_append_root {l : List Class} (hl : h.Settled l) {c d : Class}
    (hc : c = .object ∨ c ∈ l) (hd : h.isA c d) : d ∈ l ++ [.object] := by
  rw [List.mem_append, List.mem_singleton]
  rcases hc with rfl | hc
  · exact .inr (h.isA_object_iff.1 hd)
  · exact (hl.above c hc d hd).symm

theorem Settled.nodup_append_root {l : List Class} (hl : h.Settled l) :
    (l ++ [Class.object]).Nodup := by
  have hnodup : l.Nodup := hl.order.imp fun hed heq => hed (by rw [heq]; exact h.isA_self _)
  refine List.nodup_append.2 ⟨hnodup, List.nodup_singleton _, fun a ha b hb => ?_⟩
  rw [List.mem_singleton.1 hb]
  exact fun heq => hl.root (heq ▸ ha)

variable (h)

theorem settled_foldr_visit (ss : List Class) {done : List Class} (hdone : h.Settled done) :
    h.Settled (ss.foldr h.visit done) := by
  induction ss with
  | nil => exact hdone
  | cons s ss ih => exact h.settled_visit s ih

/-- A visit finds what the unfolding of the class mentions, where it is mentioned last. -/
theorem visit_append_root_eq_dedup (c : Class) {done : List Class} (hdone : h.Settled done) :
    h.visit c done ++ [.object] = (h.unfolding c ++ (done ++ [Class.object])).dedup := by
  induction hn : rank c using Nat.strongRecOn generalizing c done with
  | _ n ih =>
    rw [visit_eq]
    split
    · rename_i hc
      have hsubset : h.unfolding c ⊆ done ++ [Class.object] := fun d hd =>
        hdone.mem_append_root hc (h.isA_of_mem_unfolding hd)
      rw [List.Subset.dedup_append_right hsubset, hdone.nodup_append_root.dedup]
    · rename_i hc
      have hfold (ss : List Class) (hss : ∀ s ∈ ss, s ∈ h.supers c) :
          ss.foldr h.visit done ++ [.object] =
            (ss.flatMap h.unfolding ++ (done ++ [Class.object])).dedup := by
        induction ss with
        | nil => exact hdone.nodup_append_root.dedup.symm
        | cons s ss ihs =>
          have hs := h.rank_lt_of_mem_supers (hss s List.mem_cons_self)
          rw [foldr_visit_cons, ih _ (hn ▸ hs) s (h.settled_foldr_visit ss hdone) rfl,
            ihs fun t ht => hss t (List.mem_cons_of_mem _ ht), List.dedup_append, List.dedup_idem,
            ← List.dedup_append, List.flatMap_cons, List.append_assoc]
      -- What lies above the supertypes of the class does not mention it.
      have hnew : c ∉ (h.supers c).flatMap h.unfolding ++ (done ++ [Class.object]) := by
        rw [not_or] at hc
        simp only [List.mem_append, List.mem_flatMap, List.mem_singleton, not_or]
        refine ⟨fun ⟨s, hs, hcs⟩ => ?_, hc.2, hc.1⟩
        exact h.not_isA_of_mem_supers hs (h.isA_of_mem_unfolding hcs)
      rw [List.cons_append, hfold _ fun _ hs => hs, unfolding_eq, List.cons_append,
        List.dedup_cons_of_notMem hnew]

/-- A linearization has all that lies above a class where its unfolding mentions it last, and the
    root in the end. -/
theorem linearization_eq_dedup (c : Class) :
    h.linearization c = (h.mentions c).dedup :=
  h.visit_append_root_eq_dedup c settled_nil

/-- Of two classes above another one, that stands first whose last mention comes first. -/
theorem pair_sublist_linearization_iff {c s t : Class} (hs : h.isA c s) :
    [s, t].Sublist (h.linearization c) ↔ Followed (h.mentions c) s t := by
  rw [← mem_linearization_iff, linearization_eq_dedup, List.mem_dedup] at hs
  rw [linearization_eq_dedup, pair_sublist_dedup_iff hs]

/-! ## Declared order -/

/-- An ordering of what lies above a class that has every class before its supertypes and, of every
    class in it, the direct supertypes as they are declared. -/
structure InDeclaredOrder (c : Class) (l : List Class) : Prop where
  mem_iff : ∀ d, d ∈ l ↔ h.isA c d
  nodup : l.Nodup
  above : l.Pairwise fun d e => ¬h.isA e d
  declared : ∀ x ∈ l, (h.supers x).Pairwise fun s t => s ≠ t → [s, t].Sublist l

/-- The linearization of a class has the supertypes of all classes in it as they are declared
    exactly if no supertype is mentioned again, on another way up, after all mentions of one that
    is declared after it. -/
theorem inDeclaredOrder_linearization_iff (c : Class) :
    h.InDeclaredOrder c (h.linearization c) ↔
      ∀ x, h.isA c x → (h.supers x).Pairwise fun s t =>
        s ≠ t → Followed (h.mentions c) s t := by
  have hpair (x) (hx : h.isA c x) :
      ((h.supers x).Pairwise fun s t => s ≠ t → [s, t].Sublist (h.linearization c)) ↔
        (h.supers x).Pairwise fun s t => s ≠ t → Followed (h.mentions c) s t := by
    refine List.Pairwise.iff_of_mem fun {s t} hs _ => imp_congr_right fun _ => ?_
    exact h.pair_sublist_linearization_iff (h.isA_trans hx (h.isA_of_mem_supers hs (h.isA_self s)))
  constructor
  · intro hl x hx
    exact (hpair x hx).1 (hl.declared x (h.mem_linearization_iff.2 hx))
  · intro hfollowed
    refine ⟨fun d => h.mem_linearization_iff, h.nodup_linearization c, h.pairwise_linearization c,
      fun x hx => ?_⟩
    have hx := h.mem_linearization_iff.1 hx
    exact (hpair x hx).2 (hfollowed x hx)

variable {h}

/-- If there is such an ordering, then each class in it has its own direct supertypes as declared
    in its own linearization. -/
theorem InDeclaredOrder.pair_sublist_linearization {c x s t : Class} {l : List Class}
    (hl : h.InDeclaredOrder c l) (hx : h.isA c x) (hst : [s, t].Sublist (h.supers x))
    (hne : s ≠ t) : [s, t].Sublist (h.linearization x) := by
  have hpair {u v} (huv : [u, v].Sublist (h.supers x)) (hne : u ≠ v) : [u, v].Sublist l :=
    List.pairwise_iff_forall_sublist.1 (hl.declared x ((hl.mem_iff x).2 hx)) huv hne
  have hnot {u v} (huv : [u, v].Sublist (h.supers x)) (hne : u ≠ v) : ¬h.isA v u :=
    List.pairwise_iff_forall_sublist.1 hl.above (hpair huv hne)
  have hs : s ∈ h.supers x := hst.subset List.mem_cons_self
  have ht : t ∈ h.supers x := hst.subset (List.mem_cons_of_mem _ List.mem_cons_self)
  have hroot : s ≠ .object := fun heq => hnot hst hne (heq ▸ h.isA_object t)
  rw [h.pair_sublist_linearization_iff (h.isA_of_mem_supers hs (h.isA_self s)), mentions,
    unfolding_eq]
  obtain ⟨before, after, hsplit⟩ := List.append_of_mem ht
  have hafter (v) (hv : v ∈ after) : [t, v].Sublist (h.supers x) := by
    rw [hsplit]
    exact ((List.singleton_sublist.2 hv).cons_cons t).trans (List.sublist_append_right _ _)
  -- Else the two would be declared, and so stand, both ways round.
  have hs' : s ∉ after := fun hs => hne (eq_of_pair_sublist hl.nodup (hpair hst hne)
    (hpair (hafter s hs) hne.symm))
  have hbefore : s ∈ before := by
    rw [hsplit, List.mem_append, List.mem_cons] at hs
    exact hs.resolve_right (not_or.2 ⟨hne, hs'⟩)
  -- From the last declaration of the later one on, nothing lies below the earlier one.
  have hover : s ∉ (t :: after).flatMap h.unfolding ++ [.object] := by
    rw [List.mem_append, List.mem_singleton, not_or]
    refine ⟨fun hmem => ?_, hroot⟩
    obtain ⟨v, hv, hsv⟩ := List.mem_flatMap.1 hmem
    have hsv := h.isA_of_mem_unfolding hsv
    rcases List.mem_cons.1 hv with rfl | hv
    · exact hnot hst hne hsv
    · have hsv' : [s, v].Sublist (h.supers x) := by
        rw [hsplit]
        exact pair_sublist_append hbefore (List.mem_cons_of_mem t hv)
      exact hnot hsv' (fun heq => hs' (heq ▸ hv)) hsv
  have ht' : t ∈ (t :: after).flatMap h.unfolding ++ [.object] :=
    List.mem_append_left _ (List.mem_flatMap.2 ⟨t, List.mem_cons_self, h.mem_unfolding_self t⟩)
  rw [hsplit, List.flatMap_append, List.cons_append, List.append_assoc]
  exact followed_append (l := x :: before.flatMap h.unfolding) hover ht'

end Hierarchy

end Chainwalk
