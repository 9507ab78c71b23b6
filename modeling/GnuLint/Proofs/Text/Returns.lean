import GnuLint.Proofs.Text.Bodies

/-!
# Carriage returns at the ends of lines

The lines of a text may end in newlines, or in carriage returns with newlines
(`GnuLint.Text.withReturns`). The text is cut in the same places either way, and as long as it
has no carriage returns of its own, the only difference is in the terminators: the lines are the
same (`GnuLint.Text.lines_withReturns`).
-/

namespace GnuLint.Text

/-- **The text with a carriage return before each newline.** -/
def withReturns (s : Text) : Text := s.flatMap fun c => if c = '\n' then ['\r', '\n'] else [c]

variable {s piece : Text} {ps : List Text}

theorem withReturns_append (s t : Text) : withReturns (s ++ t) = withReturns s ++ withReturns t :=
  List.flatMap_append

theorem withReturns_flatten (ps : List Text) :
    withReturns ps.flatten = (ps.map withReturns).flatten := by
  induction ps with
  | nil => rfl
  | cons piece ps ih =>
    rw [List.flatten_cons, withReturns_append, ih, List.map_cons, List.flatten_cons]

/-- A text without newlines stays what it is. -/
theorem withReturns_of_notMem (h : '\n' ∉ s) : withReturns s = s := by
  induction s with
  | nil => rfl
  | cons c s ih =>
    obtain ⟨hc, hs⟩ := not_or.mp (mt List.mem_cons.mpr h)
    rw [withReturns, List.flatMap_cons, if_neg (Ne.symm hc), ← withReturns, ih hs]
    rfl

/-! ### Pieces -/

/-- A piece stays a piece, and it ends in a newline if it did before. -/
theorem piece_withReturns (hne : piece ≠ []) (hinside : '\n' ∉ piece.dropLast) :
    withReturns piece ≠ [] ∧ '\n' ∉ (withReturns piece).dropLast ∧
      (withReturns piece).getLast? = piece.getLast? := by
  obtain ⟨p, c, rfl⟩ := (List.eq_nil_or_concat' piece).resolve_left hne
  rw [List.dropLast_concat] at hinside
  rw [withReturns_append, withReturns_of_notMem hinside]
  by_cases hc : c = '\n'
  · subst hc
    have hend : withReturns ['\n'] = ['\r', '\n'] := rfl
    rw [hend]
    simp [hinside]
  · have hend : withReturns [c] = [c] := withReturns_of_notMem (by simpa using Ne.symm hc)
    rw [hend]
    simp [hinside]

/-- **A text with carriage returns is cut where the text is.** -/
theorem isCut_withReturns (h : IsCut s ps) : IsCut (withReturns s) (ps.map withReturns) := by
  induction ps generalizing s with
  | nil =>
    obtain rfl : s = [] := h.flatten_eq.symm
    exact isCut_nil
  | cons piece ps ih =>
    obtain ⟨rfl, hne, hinside, hends, hmore⟩ := isCut_cons_iff.mp h
    obtain ⟨hne', hinside', hlast⟩ := piece_withReturns hne hinside
    have hmore' := ih hmore
    rw [withReturns_flatten] at hmore'
    refine isCut_cons_iff.mpr ⟨?_, hne', hinside', ?_, hmore'⟩
    · rw [withReturns_append, withReturns_flatten]
    · rw [hlast, List.map_eq_nil_iff]
      exact hends

theorem pieces_withReturns (s : Text) : pieces (withReturns s) = (pieces s).map withReturns :=
  pieces_eq_of_isCut (isCut_withReturns (isCut_pieces s))

/-! ### Bodies and terminators -/

variable {b t : Text}

theorem Terminates.newline_notMem (h : Terminates b t) : '\n' ∉ b := by
  cases h <;> assumption

/-- A body that a newline terminates is also terminated by a carriage return with a newline. -/
theorem Terminates.withReturns (h : Terminates b t) (hreturn : '\r' ∉ t) :
    Terminates b (withReturns t) := by
  cases h with
  | returned => exact absurd List.mem_cons_self hreturn
  | newline hbody => exact .returned hbody
  | unterminated hbody => exact .unterminated hbody

/-- **The carriage return belongs to the terminator**, and the body of a piece is the same, as
long as the piece has no carriage return of its own. -/
theorem parts_withReturns (hinside : '\n' ∉ piece.dropLast) (hreturn : '\r' ∉ piece) :
    body (withReturns piece) = body piece ∧
      terminator (withReturns piece) = withReturns (terminator piece) := by
  have hterminates := terminates_of_inside hinside
  have hpiece := body_append_terminator piece
  have hwhole : withReturns piece = body piece ++ withReturns (terminator piece) := by
    rw [← withReturns_of_notMem hterminates.newline_notMem, ← withReturns_append, hpiece]
  have hterminator : '\r' ∉ terminator piece := by
    rw [← hpiece] at hreturn
    exact fun hmem => hreturn (List.mem_append_right _ hmem)
  have hbody : body (withReturns piece) = body piece := by
    rw [hwhole, body_of_terminates (hterminates.withReturns hterminator)]
  have hpiece' := body_append_terminator (withReturns piece)
  rw [hbody] at hpiece'
  exact ⟨hbody, List.append_cancel_left (hpiece'.trans hwhole)⟩

theorem return_notMem_of_mem_pieces (h : '\r' ∉ s) (hpiece : piece ∈ pieces s) : '\r' ∉ piece := by
  intro hmem
  refine h ?_
  rw [← flatten_pieces s]
  exact List.mem_flatten.mpr ⟨piece, hpiece, hmem⟩

/-- **A text has the same lines with carriage returns as without.** -/
theorem lines_withReturns (h : '\r' ∉ s) : lines (withReturns s) = lines s := by
  rw [lines, lines, pieces_withReturns, List.map_map]
  refine List.map_congr_left fun piece hpiece => ?_
  exact (parts_withReturns ((isCut_pieces s).inside hpiece)
    (return_notMem_of_mem_pieces h hpiece)).1

end GnuLint.Text
