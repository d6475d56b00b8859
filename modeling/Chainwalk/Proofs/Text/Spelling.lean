import Chainwalk.Proofs.Text.Elements
import Chainwalk.Text.Ascii

/-!
# Spellings of a name

A name may be spelled with small or capital ASCII letters, and with blanks around it. Blanks have
no case, so a name without blanks at its ends is what is left of each of its spellings, up to case,
when these are trimmed.

* `Text.Pads`: a word with blanks around it;
* `Text.Spells`: the spellings of a name;
* `Text.Spells.sameIgnoringCase_trim`: all of them are trimmed to the name, up to case.
-/

namespace Chainwalk

namespace Text

/-! ## Case -/

/-- Blanks are no letters, and so they have no case. -/
theorem isBlank_toLower (c : Char) : isBlank c.toLower = isBlank c := by
  by_cases hc : c.isUpper
  · have hbounds : 65 ≤ c.toNat ∧ c.toNat ≤ 90 := by
      simpa [Char.isUpper, UInt32.le_iff_toNat_le] using hc
    have hlower : c.toLower.toNat = c.toNat + 32 := by
      rw [Char.toLower_eq_of_isUpper hc, Char.toNat_ofNat, if_pos (.inl (by omega))]
    have hsmall : isBlank c.toLower = false := by
      simp only [isBlank, hlower]
      grind
    have hcapital : isBlank c = false := by
      simp only [isBlank]
      grind
    rw [hsmall, hcapital]
  · rw [Char.toLower_eq_of_not_isUpper hc]

/-- Characters are trimmed alike in any case. -/
theorem trimmed_map_toLower (cs : List Char) :
    trimmed (cs.map Char.toLower) = (trimmed cs).map Char.toLower := by
  have hblank : isBlank ∘ Char.toLower = isBlank := funext isBlank_toLower
  have hfront (ds : List Char) :
      (ds.map Char.toLower).dropWhile isBlank = (ds.dropWhile isBlank).map Char.toLower := by
    rw [List.dropWhile_map, hblank]
  simp only [trimmed, trimLeft, hfront, ← List.map_reverse]

theorem sublist_trimmed (cs : List Char) : (trimmed cs).Sublist cs := by
  rw [trimmed_eq_rdropWhile]
  exact (List.rdropWhile_prefix _ _).sublist.trans (List.dropWhile_sublist _)

/-- A text is trimmed as it stands if it is so in another case. -/
theorem trimmed_eq_self_of_map_toLower {cs ds : List Char} (hds : trimmed ds = ds)
    (hcase : cs.map Char.toLower = ds.map Char.toLower) : trimmed cs = cs := by
  refine (sublist_trimmed cs).eq_of_length ?_
  have hmap := trimmed_map_toLower cs
  rw [hcase, trimmed_map_toLower, hds, ← hcase] at hmap
  simpa using congrArg List.length hmap.symm

theorem trimmed_append_of_isBlank {c : Char} (hc : isBlank c) (cs : List Char) :
    trimmed (cs ++ [c]) = trimmed cs := by
  rw [trimmed_eq_rdropWhile, trimmed_eq_rdropWhile, List.dropWhile_append]
  split
  · rename_i hempty
    rw [List.isEmpty_iff.1 hempty, List.dropWhile_cons_of_pos hc, List.dropWhile_nil]
  · exact List.rdropWhile_concat_pos isBlank _ _ hc

theorem trimmed_append_of_forall {before after : List Char} (hbefore : ∀ c ∈ before, isBlank c)
    (hafter : ∀ c ∈ after, isBlank c) (cs : List Char) :
    trimmed (before ++ cs ++ after) = trimmed cs := by
  induction before with
  | cons c before ih =>
    rw [List.forall_mem_cons] at hbefore
    rw [List.cons_append, List.cons_append, trimmed_cons_of_isBlank hbefore.1, ih hbefore.2]
  | nil =>
    -- The blanks behind are taken off from the end.
    induction after using List.reverseRecOn with
    | nil => rw [List.append_nil, List.nil_append]
    | append_singleton after c ih =>
      rw [List.forall_mem_append] at hafter
      rw [← List.append_assoc, trimmed_append_of_isBlank (hafter.2 c List.mem_cons_self),
        ih hafter.1]

/-! ## Blanks around a word -/

/-- A literal that is a word with blanks around it. -/
def Pads (literal word : String) : Prop :=
  ∃ before after : String, (∀ c ∈ before.toList, isBlank c) ∧ (∀ c ∈ after.toList, isBlank c) ∧
    literal = before ++ word ++ after

variable {literal word : String}

theorem Pads.trim_eq (h : Pads literal word) (hword : trim word = word) : trim literal = word := by
  obtain ⟨before, after, hbefore, hafter, rfl⟩ := h
  rw [trim, String.toList_append, String.toList_append, trimmed_append_of_forall hbefore hafter,
    ← toList_trim, hword, String.ofList_toList]

theorem Pads.not_mem (h : Pads literal word) {c : Char} (hc : ¬isBlank c)
    (hword : c ∉ word.toList) : c ∉ literal.toList := by
  obtain ⟨before, after, hbefore, hafter, rfl⟩ := h
  rw [String.toList_append, String.toList_append, List.mem_append, List.mem_append]
  rintro ((hmem | hmem) | hmem)
  · exact hc (hbefore c hmem)
  · exact hword hmem
  · exact hc (hafter c hmem)

/-! ## Spellings -/

/-- A literal that is the name, up to the case of ASCII letters, with blanks around it. -/
def Spells (literal name : String) : Prop :=
  ∃ before variant after : String, (∀ c ∈ before.toList, isBlank c) ∧
    (∀ c ∈ after.toList, isBlank c) ∧ sameIgnoringCase variant name ∧
      literal = before ++ variant ++ after

theorem Spells.sameIgnoringCase_trim {name : String} (h : Spells literal name)
    (hname : trim name = name) : sameIgnoringCase (trim literal) name := by
  obtain ⟨before, variant, after, hbefore, hafter, hvariant, rfl⟩ := h
  have hcase : variant.toList.map Char.toLower = name.toList.map Char.toLower := by
    simpa [sameIgnoringCase] using hvariant
  have htrimmed : trimmed name.toList = name.toList := by
    rw [← toList_trim, hname]
  have htrim : trim variant = variant := by
    rw [trim, trimmed_eq_self_of_map_toLower htrimmed hcase, String.ofList_toList]
  have hpads : Pads (before ++ variant ++ after) variant := ⟨before, after, hbefore, hafter, rfl⟩
  rwa [hpads.trim_eq htrim]

end Text

end Chainwalk
