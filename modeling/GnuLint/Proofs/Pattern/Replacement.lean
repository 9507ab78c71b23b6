import GnuLint.Pattern.Basic
import GnuLint.Proofs.Text.Bodies
import Mathlib.Data.List.TakeDrop

/-!
# Putting a plain text in the place of matches

Whatever a template puts in the place of matches is made of its own characters and of those of
the text (`GnuLint.Pattern.mem_of_mem_replaceFrom`). A template without a dollar sign stands for
itself. If it also has no newline, is not empty, and neither begins like a comment nor ends like
a terminator, then a line in which matches are replaced by it stays a line
(`GnuLint.Pattern.fitsIn_replaceAll`): what is not put in is copied from the line, in the same
order.
-/

namespace GnuLint

/-! ### Plain templates -/

namespace Template

/-- **A template is plain** if it stands for itself and does not change where lines begin and
end. -/
structure IsPlain (t : Text) : Prop where
  noReference : '$' ∉ t
  noNewline : '\n' ∉ t
  ne_nil : t ≠ []
  head : t.head? ≠ some '#'
  last : t.getLast? ≠ some '\r'

instance (t : Text) : Decidable (IsPlain t) :=
  decidable_of_iff ('$' ∉ t ∧ '\n' ∉ t ∧ t ≠ [] ∧ t.head? ≠ some '#' ∧ t.getLast? ≠ some '\r')
    ⟨fun h => ⟨h.1, h.2.1, h.2.2.1, h.2.2.2.1, h.2.2.2.2⟩,
      fun h => ⟨h.noReference, h.noNewline, h.ne_nil, h.head, h.last⟩⟩

theorem piecesWithin_of_notMem {n : Nat} {t : Text} (h : '$' ∉ t) (hn : t.length ≤ n) :
    piecesWithin n t = t.map .char := by
  induction t generalizing n with
  | nil => cases n <;> rfl
  | cons c t ih =>
    rw [List.mem_cons, not_or] at h
    cases n with
    | zero => cases hn
    | succ n =>
      have hc : c ≠ '$' := Ne.symm h.1
      rw [List.map_cons, ← ih h.2 (Nat.le_of_succ_le_succ hn)]
      simp [piecesWithin, hc]

theorem suffix_of_span {p : Char → Bool} {s t u : Text} (h : s.span p = (t, u)) : u <:+ s := by
  rw [List.span_eq_takeWhile_dropWhile] at h
  rw [← (Prod.mk.inj h).2]
  exact List.dropWhile_suffix p

theorem char_ne_reference (c : Char) (s : Text) : TemplatePiece.char c ≠ reference s := by
  rw [reference]
  split <;> simp

/-- **A character that stands for itself** is one of the template. -/
theorem mem_of_char_mem_piecesWithin {n : Nat} {t : Text} {c : Char}
    (h : TemplatePiece.char c ∈ piecesWithin n t) : c ∈ t := by
  fun_induction piecesWithin n t with
  | case1 => cases h
  | case2 => cases h
  | case3 n s ih =>
    rcases List.mem_cons.mp h with hc | hmore
    · rw [TemplatePiece.char.inj hc]
      exact List.mem_cons_self
    · exact List.mem_cons_of_mem _ (List.mem_cons_of_mem _ (ih hmore))
  | case4 n s _ rest name hname ih =>
    -- what follows a reference is an end of what follows its dollar sign
    have hrest : rest <:+ s := by
      split at hname
      · rename_i t _
        split at hname
        · rename_i hspan
          obtain ⟨-, rfl⟩ := Prod.mk.inj hname
          exact ((List.suffix_cons _ _).trans (suffix_of_span hspan)).trans (List.suffix_cons _ t)
        · cases (Prod.mk.inj hname).1
      · split at hname
        · cases (Prod.mk.inj hname).1
        · rename_i hspan
          obtain ⟨-, rfl⟩ := Prod.mk.inj hname
          exact suffix_of_span hspan
    have hmore := (List.mem_cons.mp h).resolve_left (char_ne_reference c name)
    exact List.mem_cons_of_mem _ (hrest.subset (ih hmore))
  | case5 n s _ rest _ ih =>
    rcases List.mem_cons.mp h with hc | hmore
    · rw [TemplatePiece.char.inj hc]
      exact List.mem_cons_self
    · exact List.mem_cons_of_mem _ (ih hmore)
  | case6 n d s _ _ ih =>
    rcases List.mem_cons.mp h with hc | hmore
    · rw [TemplatePiece.char.inj hc]
      exact List.mem_cons_self
    · exact List.mem_cons_of_mem _ (ih hmore)

/-- **What a template makes** is made of its own characters and of what its references stand
for. -/
theorem mem_of_mem_expand {group : TemplatePiece → Text} {t : Text} {c : Char}
    (h : c ∈ expand group t) : c ∈ t ∨ ∃ piece, c ∈ group piece := by
  obtain ⟨piece, hpiece, hc⟩ := List.mem_flatMap.mp h
  cases piece with
  | char d =>
    rw [List.mem_singleton.mp hc]
    exact Or.inl (mem_of_char_mem_piecesWithin hpiece)
  | number n => exact Or.inr ⟨_, hc⟩
  | name s => exact Or.inr ⟨_, hc⟩

/-- **A template without a dollar sign stands for itself**, whatever was matched. -/
theorem expand_of_notMem {t : Text} (h : '$' ∉ t) (group : TemplatePiece → Text) :
    expand group t = t := by
  rw [expand, pieces, piecesWithin_of_notMem h (Nat.le_refl _), List.flatMap_map]
  exact List.flatMap_singleton' t

end Template

/-! ### Replacing matches -/

namespace Pattern

variable {p : Pattern} {s t : Text}

theorem slice_subset (s : Text) (start stop : Nat) : slice s start stop ⊆ s :=
  List.Subset.trans (List.take_subset _ _) (List.drop_subset _ _)

/-- What a reference stands for is copied from the text. -/
theorem groupText_subset (p : Pattern) (s : Text) (h : Hit) (piece : TemplatePiece) :
    p.groupText s h piece ⊆ s := by
  unfold groupText
  dsimp only
  generalize Option.bind _ h.group? = ends?
  cases ends? with
  | none => exact List.nil_subset s
  | some ends => exact slice_subset s ends.1 ends.2

theorem mem_of_mem_replaceFrom {c : Char} {position : Nat} {hits : List Hit}
    (h : c ∈ p.replaceFrom s t position hits) : c ∈ s ∨ c ∈ t := by
  induction hits generalizing position with
  | nil => exact Or.inl (List.mem_of_mem_drop h)
  | cons hit hits ih =>
    rw [replaceFrom] at h
    rcases List.mem_append.mp h with hbefore | hmore
    · exact Or.inl (slice_subset s _ _ hbefore)
    rcases List.mem_append.mp hmore with hput | hmore
    · rcases Template.mem_of_mem_expand hput with ht | ⟨piece, hpiece⟩
      · exact Or.inr ht
      · exact Or.inl (groupText_subset p s hit piece hpiece)
    · exact ih hmore

/-- What a replacement ends in is the end of the text, unless it is the end of what is put
in. -/
theorem getLast?_of_replaceFrom {c : Char} (ht : '$' ∉ t) (hne : t ≠ [])
    (hc : t.getLast? ≠ some c) {position : Nat} {hits : List Hit}
    (h : (p.replaceFrom s t position hits).getLast? = some c) : s.getLast? = some c := by
  induction hits generalizing position with
  | nil =>
    rw [replaceFrom, List.getLast?_drop] at h
    split at h
    · cases h
    · exact h
  | cons hit hits ih =>
    obtain ⟨d, hd⟩ : ∃ d, t.getLast? = some d :=
      ⟨_, List.getLast?_eq_getLast_of_ne_nil hne⟩
    rw [replaceFrom, Template.expand_of_notMem ht, List.getLast?_append, List.getLast?_append,
      hd] at h
    cases hmore : (p.replaceFrom s t hit.stop hits).getLast? with
    | none =>
      rw [hmore] at h
      exact absurd (hd.trans h) hc
    | some e =>
      rw [hmore] at h
      exact ih (hmore.trans h)

/-- **A line in which matches are replaced by a plain template stays a line.** -/
theorem fitsIn_replaceAll (p : Pattern) (s : Text) {t : Text} (ht : Template.IsPlain t) :
    Text.FitsIn (p.replaceAll s t) s := by
  rw [replaceAll]
  refine ⟨fun hmem => ?_, fun hnil => ?_, fun hhead => ?_,
    getLast?_of_replaceFrom ht.noReference ht.ne_nil ht.last⟩
  · exact (mem_of_mem_replaceFrom hmem).resolve_right ht.noNewline
  · -- what is put in is not empty, so nothing was
    cases hhits : p.hits s with
    | nil =>
      rw [hhits] at hnil
      exact hnil
    | cons hit hits =>
      rw [hhits, replaceFrom, Template.expand_of_notMem ht.noReference] at hnil
      exact absurd (List.append_eq_nil_iff.mp (List.append_eq_nil_iff.mp hnil).2).1 ht.ne_nil
  · cases hhits : p.hits s with
    | nil =>
      rw [hhits] at hhead
      exact hhead
    | cons hit hits =>
      rw [hhits, replaceFrom, Template.expand_of_notMem ht.noReference] at hhead
      cases hbefore : slice s 0 hit.start with
      | nil =>
        obtain ⟨c, u, rfl⟩ := List.exists_cons_of_ne_nil ht.ne_nil
        rw [hbefore] at hhead
        exact absurd hhead ht.head
      | cons c u =>
        have hprefix : slice s 0 hit.start <+: s := List.take_prefix hit.start s
        rw [hbefore] at hhead hprefix
        obtain ⟨v, rfl⟩ := hprefix
        exact hhead

end Pattern

end GnuLint
