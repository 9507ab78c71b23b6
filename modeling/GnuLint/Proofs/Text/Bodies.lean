import GnuLint.Proofs.Text.Pieces

/-!
# Bodies in the place of others

A line may be given another body without becoming two lines, or none, or taking a character
of its terminator for its own, if the other body **fits** in the place of the old one
(`GnuLint.Text.FitsIn`). Bodies that fit are found again where they have been put
(`GnuLint.Text.pieces_eq_of_isCut`): a text has no other cut into pieces than the one that its
description says.
-/

namespace GnuLint.Text

/-! ### Fitting -/

/-- **A body fits in the place of another one**: it has no newline, no number sign at its
beginning and no carriage return at its end unless the other one has, and it is not empty
unless the other one is. -/
structure FitsIn (new old : Text) : Prop where
  newline : '\n' ∈ new → '\n' ∈ old
  nil : new = [] → old = []
  head : new.head? = some '#' → old.head? = some '#'
  last : new.getLast? = some '\r' → old.getLast? = some '\r'

namespace FitsIn

variable {new middle old : Text}

theorem refl (s : Text) : FitsIn s s := ⟨id, id, id, id⟩

theorem trans (h : FitsIn new middle) (h' : FitsIn middle old) : FitsIn new old :=
  ⟨h'.newline ∘ h.newline, h'.nil ∘ h.nil, h'.head ∘ h.head, h'.last ∘ h.last⟩

theorem append_left (h : FitsIn new old) (s : Text) : FitsIn (s ++ new) (s ++ old) := by
  refine ⟨fun hmem => ?_, fun hnil => ?_, fun hhead => ?_, fun hlast => ?_⟩
  · rcases List.mem_append.mp hmem with hmem | hmem
    · exact List.mem_append_left _ hmem
    · exact List.mem_append_right _ (h.newline hmem)
  · obtain ⟨rfl, hnew⟩ := List.append_eq_nil_iff.mp hnil
    exact h.nil hnew
  · cases s with
    | nil => exact h.head hhead
    | cons c s => exact hhead
  · rcases List.eq_nil_or_concat' new with rfl | ⟨t, c, rfl⟩
    · rwa [h.nil rfl]
    · rw [← List.append_assoc, List.getLast?_concat] at hlast
      have hold : old.getLast? = some '\r' := h.last (by rwa [List.getLast?_concat])
      rw [List.getLast?_append, hold]
      rfl

theorem append_right (h : FitsIn new old) (s : Text) : FitsIn (new ++ s) (old ++ s) := by
  refine ⟨fun hmem => ?_, fun hnil => ?_, fun hhead => ?_, fun hlast => ?_⟩
  · rcases List.mem_append.mp hmem with hmem | hmem
    · exact List.mem_append_left _ (h.newline hmem)
    · exact List.mem_append_right _ hmem
  · obtain ⟨hnew, rfl⟩ := List.append_eq_nil_iff.mp hnil
    rw [h.nil hnew, List.append_nil]
  · cases new with
    | nil => rwa [h.nil rfl]
    | cons c new =>
      have hold : old.head? = some '#' := h.head hhead
      rw [List.head?_append, hold]
      rfl
  · rcases List.eq_nil_or_concat' s with rfl | ⟨t, c, rfl⟩
    · rw [List.append_nil] at hlast ⊢
      exact h.last hlast
    · rw [← List.append_assoc, List.getLast?_concat] at hlast ⊢
      exact hlast

end FitsIn

/-! ### Pieces with other bodies -/

variable {new old terminator : Text}

/-- A body that fits is terminated as the old one was. -/
theorem Terminates.fits (h : Terminates old terminator) (hnew : FitsIn new old) :
    Terminates new terminator := by
  cases h with
  | returned hold => exact .returned (mt hnew.newline hold)
  | newline hold hlast => exact .newline (mt hnew.newline hold) (mt hnew.last hlast)
  | unterminated hold => exact .unterminated (mt hnew.newline hold)

/-- The body of a piece is read off it. -/
theorem body_of_terminates (h : Terminates new terminator) : body (new ++ terminator) = new := by
  cases h with
  | returned hnew => simp [body]
  | newline hnew hlast =>
    rcases List.eq_nil_or_concat' new with rfl | ⟨t, c, rfl⟩
    · rfl
    · have hc : c ≠ '\r' := by simpa using hlast
      simp [body, hc]
  | unterminated hnew =>
    rw [List.append_nil]
    rcases List.eq_nil_or_concat' new with rfl | ⟨t, c, rfl⟩
    · rfl
    · have hc : c ≠ '\n' := fun he => hnew (by simp [he])
      simp [body, hc]

/-! ### Where a text is cut -/

theorem splitPiece_of_inside {piece rest : Text} (hne : piece ≠ [])
    (hinside : '\n' ∉ piece.dropLast) (hends : piece.getLast? = some '\n' ∨ rest = []) :
    splitPiece (piece ++ rest) = (piece, rest) := by
  induction piece with
  | nil => exact absurd rfl hne
  | cons c piece ih =>
    cases piece with
    | nil =>
      by_cases hc : c = '\n'
      · simp [splitPiece, hc]
      · obtain rfl : rest = [] := hends.resolve_left (by simpa using hc)
        simp [splitPiece, hc]
    | cons d piece =>
      rw [List.dropLast_cons_cons, List.mem_cons, not_or] at hinside
      rw [List.cons_append, splitPiece_cons (Ne.symm hinside.1),
        ih (List.cons_ne_nil d piece) hinside.2 hends]

/-- A text is cut into a first piece and the pieces of what is left. -/
theorem isCut_cons_iff {s piece : Text} {ps : List Text} :
    IsCut s (piece :: ps) ↔ s = piece ++ ps.flatten ∧ piece ≠ [] ∧ '\n' ∉ piece.dropLast ∧
      (piece.getLast? = some '\n' ∨ ps = []) ∧ IsCut ps.flatten ps := by
  constructor
  · intro h
    refine ⟨h.flatten_eq.symm, h.ne_nil List.mem_cons_self, h.inside List.mem_cons_self, ?_, rfl,
      fun hp => h.ne_nil (List.mem_cons_of_mem _ hp),
      fun hp => h.inside (List.mem_cons_of_mem _ hp), ?_⟩
    · cases ps with
      | nil => exact Or.inr rfl
      | cons q ps => exact Or.inl (h.ends List.mem_cons_self)
    · intro p hp
      cases ps with
      | nil => cases hp
      | cons q ps => exact h.ends (List.mem_cons_of_mem _ hp)
  · rintro ⟨rfl, hne, hinside, hends, hmore⟩
    refine ⟨rfl, ?_, ?_, ?_⟩
    · rintro p (_ | ⟨_, hp⟩)
      · exact hne
      · exact hmore.ne_nil hp
    · rintro p (_ | ⟨_, hp⟩)
      · exact hinside
      · exact hmore.inside hp
    · intro p hp
      cases ps with
      | nil => cases hp
      | cons q ps =>
        rcases List.mem_cons.mp hp with rfl | hp
        · exact hends.resolve_right (List.cons_ne_nil q ps)
        · exact hmore.ends hp

/-- **A text is cut in one way only.** -/
theorem pieces_eq_of_isCut {s : Text} {ps : List Text} (h : IsCut s ps) : pieces s = ps := by
  suffices hn : ∀ n, s.length ≤ n → piecesWithin n s = ps from hn _ (Nat.le_refl _)
  intro n hlength
  induction ps generalizing n s with
  | nil =>
    obtain rfl : s = [] := h.flatten_eq.symm
    cases n <;> rfl
  | cons piece ps ih =>
    obtain ⟨rfl, hne, hinside, hends, hmore⟩ := isCut_cons_iff.mp h
    have hsplit : splitPiece (piece ++ ps.flatten) = (piece, ps.flatten) :=
      splitPiece_of_inside hne hinside (hends.imp_right fun hnil => by rw [hnil]; rfl)
    obtain ⟨c, t, rfl⟩ := List.exists_cons_of_ne_nil hne
    cases n with
    | zero => simp at hlength
    | succ n =>
      rw [List.cons_append] at hsplit ⊢
      rw [piecesWithin, hsplit]
      refine congrArg ((c :: t) :: ·) (ih hmore n ?_)
      rw [List.length_append, List.length_cons] at hlength
      omega

end GnuLint.Text
