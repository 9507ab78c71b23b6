import GnuLint.Text.Blank
import Mathlib.Data.List.DropRight

/-!
# Blanks, and texts without them

The ends of a text are trimmed of blanks. What is left is in the text, with blanks alone on its two
sides, and a text that has no blanks of its own is what is left exactly of the texts in which it
stands that way (`GnuLint.Text.trim_eq_iff`). Which characters are blanks and which are letters is
told by their numbers.
-/

namespace GnuLint.Text

/-! ### Blanks and letters -/

/-- Blanks by their numbers. -/
theorem isBlank_iff {c : Char} : isBlank c = true ↔
    c.toNat = 32 ∨ (9 ≤ c.toNat ∧ c.toNat ≤ 13) ∨ c.toNat = 133 ∨ c.toNat = 160 ∨
      c.toNat = 5760 ∨ (8192 ≤ c.toNat ∧ c.toNat ≤ 8202) ∨ c.toNat = 8232 ∨ c.toNat = 8233 ∨
      c.toNat = 8239 ∨ c.toNat = 8287 ∨ c.toNat = 12288 := by
  simp only [isBlank, Bool.or_eq_true, Bool.and_eq_true, beq_iff_eq, decide_eq_true_eq,
    Char.le_def, UInt32.le_iff_toNat_le, Char.ext_iff, ← UInt32.toNat_inj, or_assoc]
  exact Iff.rfl

/-- Letters by their numbers. -/
theorem isAlpha_iff {c : Char} : c.isAlpha = true ↔
    (65 ≤ c.toNat ∧ c.toNat ≤ 90) ∨ (97 ≤ c.toNat ∧ c.toNat ≤ 122) := by
  have hranges : c.isAlpha = (decide (c.val ≥ 'A'.val ∧ c.val ≤ 'Z'.val) ||
      (decide (c.val ≥ 'a'.val) && decide (c.val ≤ 'z'.val))) := rfl
  rw [hranges]
  simp only [Bool.or_eq_true, Bool.and_eq_true, decide_eq_true_eq, ge_iff_le,
    UInt32.le_iff_toNat_le]
  exact Iff.rfl

/-- No blank is a letter. -/
theorem isAlpha_eq_false_of_isBlank {c : Char} (h : isBlank c = true) : c.isAlpha = false := by
  rw [isBlank_iff] at h
  rw [← Bool.not_eq_true, isAlpha_iff]
  omega

/-! ### Trimming -/

theorem trimStart_eq_nil_or (s : Text) :
    trimStart s = [] ∨ ∃ c t, trimStart s = c :: t ∧ isBlank c = false := by
  rcases hs : trimStart s with _ | ⟨c, t⟩
  · exact Or.inl rfl
  · refine Or.inr ⟨c, t, rfl, ?_⟩
    replace hs : s.dropWhile isBlank = c :: t := hs
    have hhead := List.head_dropWhile_not isBlank (l := s) (by simp [hs])
    simpa only [hs, List.head_cons] using hhead

theorem trim_ne_nil {s t : Text} {c : Char} (hs : trimStart s = c :: t) (hc : isBlank c = false) :
    trim s ≠ [] := by
  intro h
  have hblank := List.rdropWhile_eq_nil_iff.mp h c (by rw [hs]; exact List.mem_cons_self)
  rw [hc] at hblank
  cases hblank

/-- Nothing is left of a text exactly if it is all blank. -/
theorem trim_eq_nil_iff {s : Text} : trim s = [] ↔ isAllBlank s = true := by
  have hall : isAllBlank s = true ↔ trimStart s = [] := by
    rw [isAllBlank, List.all_eq_true]
    exact List.dropWhile_eq_nil_iff.symm
  rw [hall]
  constructor
  · intro h
    rcases trimStart_eq_nil_or s with hnil | ⟨c, t, hs, hc⟩
    · exact hnil
    · exact absurd h (trim_ne_nil hs hc)
  · intro h
    rw [trim, h]
    rfl

/-- Trimming the end of a text as well does not change how it begins. -/
theorem head?_trim (s : Text) : (trim s).head? = (trimStart s).head? := by
  rcases trimStart_eq_nil_or s with hnil | ⟨c, t, hs, hc⟩
  · rw [trim, hnil]
    rfl
  · have hprefix : trim s <+: c :: t := hs ▸ List.rdropWhile_prefix isBlank (trimStart s)
    rcases hd : trim s with _ | ⟨d, u⟩
    · exact absurd hd (trim_ne_nil hs hc)
    · rw [hd, List.cons_prefix_cons] at hprefix
      rw [hs, hprefix.1]
      rfl

/-! #### What stands between blanks -/

variable {s t left right : Text}

theorem dropWhile_isBlank_append (hleft : isAllBlank left = true)
    (hs : ∀ c ∈ s.head?, isBlank c = false) : (left ++ s).dropWhile isBlank = s := by
  rw [List.dropWhile_append_of_pos (List.all_eq_true.mp hleft)]
  cases s with
  | nil => rfl
  | cons c s => exact List.dropWhile_cons_of_neg (by simpa using hs c rfl)

/-- A text without blanks is what is left if blanks are put on its two sides. -/
theorem trim_append (hleft : isAllBlank left = true) (hright : isAllBlank right = true)
    (hs : ∀ c ∈ s, isBlank c = false) : trim (left ++ s ++ right) = s := by
  cases s with
  | nil =>
    rw [trim_eq_nil_iff, isAllBlank, List.append_nil, List.all_append, Bool.and_eq_true]
    exact ⟨hleft, hright⟩
  | cons c s =>
    have hstart : trimStart (left ++ (c :: s ++ right)) = c :: s ++ right :=
      dropWhile_isBlank_append hleft (by simpa using hs c List.mem_cons_self)
    have hreverse : isAllBlank right.reverse = true := by rwa [isAllBlank, List.all_reverse]
    have hend : (right.reverse ++ (c :: s).reverse).dropWhile isBlank = (c :: s).reverse :=
      dropWhile_isBlank_append hreverse fun d hd =>
        hs d (List.mem_reverse.mp (List.mem_of_mem_head? hd))
    rw [List.append_assoc, trim, hstart, trimEnd, List.reverse_append, hend, List.reverse_reverse]

/-- A text is what is left of it when it is trimmed, with blanks on the two sides. -/
theorem exists_eq_trim (s : Text) :
    ∃ left right, isAllBlank left = true ∧ isAllBlank right = true ∧
      s = left ++ trim s ++ right := by
  have hstart : s.takeWhile isBlank ++ trimStart s = s := List.takeWhile_append_dropWhile
  have hend : trim s ++ (trimStart s).rtakeWhile isBlank = trimStart s :=
    List.rdropWhile_append_rtakeWhile
  refine ⟨s.takeWhile isBlank, (trimStart s).rtakeWhile isBlank, ?_, ?_, ?_⟩
  · exact List.all_eq_true.mpr fun c hc => List.mem_takeWhile_imp hc
  · exact List.all_eq_true.mpr fun c hc => List.mem_rtakeWhile_imp hc
  · rw [List.append_assoc, hend, hstart]

/-- **A text without blanks is what is left of another one** exactly if the other one has it, and
nothing but blanks on its two sides. -/
theorem trim_eq_iff (ht : ∀ c ∈ t, isBlank c = false) :
    trim s = t ↔ ∃ left right, isAllBlank left = true ∧ isAllBlank right = true ∧
      s = left ++ t ++ right := by
  constructor
  · rintro rfl
    exact exists_eq_trim s
  · rintro ⟨left, right, hleft, hright, rfl⟩
    exact trim_append hleft hright ht

end GnuLint.Text
