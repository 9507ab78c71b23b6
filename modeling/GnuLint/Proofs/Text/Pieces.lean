import GnuLint.Text.Lines
import Mathlib.Data.List.Basic

/-!
# How a text is cut into pieces

The pieces of a text are what their description says: put together they are the text, no
piece has a newline before its end, and each but the last ends in one
(`GnuLint.Text.isCut_pieces`). These facts leave no choice as to where a text is cut.

A piece without a newline before its end falls into a body without newlines and one of
three terminators; the carriage return before a newline belongs to the terminator
(`GnuLint.Text.Terminates`).
-/

namespace GnuLint.Text

/-! ### Where a text is cut -/

/-- **A text is cut into pieces** right after each of its newlines. -/
structure IsCut (s : Text) (pieces : List Text) : Prop where
  flatten_eq : pieces.flatten = s
  ne_nil {piece : Text} : piece ∈ pieces → piece ≠ []
  inside {piece : Text} : piece ∈ pieces → '\n' ∉ piece.dropLast
  ends {piece : Text} : piece ∈ pieces.dropLast → piece.getLast? = some '\n'

theorem splitPiece_cons {c : Char} (hc : c ≠ '\n') (s : Text) :
    splitPiece (c :: s) = (c :: (splitPiece s).1, (splitPiece s).2) := by
  rw [splitPiece, if_neg hc]

/-- The first piece of a text has no newline before its end, and if something is left of
the text after it, it ends in one. -/
theorem splitPiece_cases (s : Text) :
    '\n' ∉ (splitPiece s).1.dropLast ∧
      ((splitPiece s).1.getLast? = some '\n' ∨ (splitPiece s).2 = []) := by
  induction s with
  | nil => exact ⟨List.not_mem_nil, Or.inr rfl⟩
  | cons c s ih =>
    by_cases hc : c = '\n'
    · subst hc
      exact ⟨List.not_mem_nil, Or.inl rfl⟩
    obtain ⟨hinside, hend⟩ := ih
    rw [splitPiece_cons hc]
    cases hp : (splitPiece s).1 with
    | nil =>
      rw [hp] at hend
      exact ⟨List.not_mem_nil, Or.inr (hend.resolve_left (by simp))⟩
    | cons d piece =>
      rw [hp] at hinside hend
      rw [List.dropLast_cons_cons, List.getLast?_cons_cons]
      exact ⟨by simpa [Ne.symm hc] using hinside, hend⟩

theorem splitPiece_ne_nil (c : Char) (s : Text) : (splitPiece (c :: s)).1 ≠ [] := by
  by_cases hc : c = '\n' <;> simp [splitPiece, hc]

theorem isCut_nil : IsCut [] [] := ⟨rfl, by simp, by simp, by simp⟩

/-- A bound that no text exceeds is enough to cut it all up. -/
theorem isCut_piecesWithin {n : Nat} {s : Text} (h : s.length ≤ n) :
    IsCut s (piecesWithin n s) := by
  induction n generalizing s with
  | zero =>
    obtain rfl : s = [] := List.length_eq_zero_iff.mp (Nat.le_zero.mp h)
    exact isCut_nil
  | succ n ih =>
    cases s with
    | nil => exact isCut_nil
    | cons c s =>
      have hrest : IsCut (splitPiece (c :: s)).2 (piecesWithin n (splitPiece (c :: s)).2) := by
        refine ih ?_
        have hlt := length_splitPiece_snd_lt c s
        omega
      obtain ⟨hinside, hend⟩ := splitPiece_cases (c :: s)
      refine ⟨flatten_piecesWithin (n + 1) (c :: s), ?_, ?_, ?_⟩
      · rintro piece (_ | ⟨_, hp⟩)
        · exact splitPiece_ne_nil c s
        · exact hrest.ne_nil hp
      · rintro piece (_ | ⟨_, hp⟩)
        · exact hinside
        · exact hrest.inside hp
      · intro piece hp
        rw [piecesWithin] at hp
        -- the first piece is not the last one only if something is left after it
        rcases hend with hend | hnil
        · cases hmore : piecesWithin n (splitPiece (c :: s)).2 with
          | nil => simp [hmore] at hp
          | cons p ps =>
            rw [hmore, List.dropLast_cons_cons] at hp
            rcases List.mem_cons.mp hp with rfl | hp
            · exact hend
            · exact hrest.ends (hmore ▸ hp)
        · rw [hnil] at hp
          cases n <;> simp [piecesWithin] at hp

/-- **The pieces of a text** are what the text is cut into. -/
theorem isCut_pieces (s : Text) : IsCut s (pieces s) := isCut_piecesWithin (Nat.le_refl _)

/-! ### Bodies and terminators -/

/-- **A body is terminated** by one of the three terminators. -/
inductive Terminates (body : Text) : (terminator : Text) → Prop
  /-- A carriage return and a newline. -/
  | returned : '\n' ∉ body → Terminates body ['\r', '\n']
  /-- A newline alone. -/
  | newline : '\n' ∉ body → body.getLast? ≠ some '\r' → Terminates body ['\n']
  /-- Nothing, at the end of a text. -/
  | unterminated : '\n' ∉ body → Terminates body []

/-- **A piece falls into a body and its terminator.** -/
theorem terminates_of_inside {piece : Text} (h : '\n' ∉ piece.dropLast) :
    Terminates (body piece) (terminator piece) := by
  rcases List.eq_nil_or_concat' piece with rfl | ⟨p, c, rfl⟩
  · exact .unterminated List.not_mem_nil
  rw [List.dropLast_concat] at h
  by_cases hc : c = '\n'
  · subst hc
    rcases List.eq_nil_or_concat' p with rfl | ⟨q, d, rfl⟩
    · exact .newline List.not_mem_nil (by simp [body])
    by_cases hd : d = '\r'
    · subst hd
      have hbody : body (q ++ ['\r'] ++ ['\n']) = q := by simp [body]
      have hterminator : terminator (q ++ ['\r'] ++ ['\n']) = ['\r', '\n'] := by
        simp [terminator]
      rw [hbody, hterminator]
      exact .returned fun hm => h (List.mem_append_left _ hm)
    · have hbody : body (q ++ [d] ++ ['\n']) = q ++ [d] := by simp [body, hd]
      have hterminator : terminator (q ++ [d] ++ ['\n']) = ['\n'] := by simp [terminator, hd]
      rw [hbody, hterminator]
      exact .newline h (by simpa using hd)
  · have hbody : body (p ++ [c]) = p ++ [c] := by simp [body, hc]
    have hterminator : terminator (p ++ [c]) = [] := by simp [terminator, hc]
    rw [hbody, hterminator]
    exact .unterminated (by simpa [Ne.symm hc] using h)

end GnuLint.Text
