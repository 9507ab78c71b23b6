import GnuLint.Text.Basic

/-!
# Lines and their terminators

A text falls into **pieces**, each ending right after a newline, the last one
perhaps without. A piece is a body followed by its terminator: a newline, a
carriage return and a newline, or nothing. Putting the pieces back together gives
the text (`GnuLint.Text.flatten_pieces`), and so does putting the two parts of
each piece back together (`GnuLint.Text.body_append_terminator`): whatever works
on bodies alone keeps every terminator of the text.
-/

namespace GnuLint.Text

/-! ### Pieces -/

/-- The text up to and including its first newline, and the text after it. -/
def splitPiece : Text → Text × Text
  | [] => ([], [])
  | c :: s =>
    if c = '\n' then ([c], s)
    else
      let (piece, rest) := splitPiece s
      (c :: piece, rest)

theorem splitPiece_append (s : Text) : (splitPiece s).1 ++ (splitPiece s).2 = s := by
  induction s with
  | nil => rfl
  | cons c s ih =>
    by_cases h : c = '\n'
    · simp [splitPiece, h]
    · simp [splitPiece, h, ih]

theorem length_splitPiece_snd_lt (c : Char) (s : Text) :
    (splitPiece (c :: s)).2.length < (c :: s).length := by
  have h := congrArg List.length (splitPiece_append (c :: s))
  have hne : (splitPiece (c :: s)).1 ≠ [] := by
    by_cases hc : c = '\n' <;> simp [splitPiece, hc]
  have hpos := List.length_pos_iff.2 hne
  rw [List.length_append] at h
  omega

/-- The pieces of a text, cut right after each newline. The bound counts pieces:
no text has more of them than characters. -/
def piecesWithin : Nat → Text → List Text
  | _, [] => []
  | 0, s => [s]
  | n + 1, c :: s => (splitPiece (c :: s)).1 :: piecesWithin n (splitPiece (c :: s)).2

/-- **The pieces of a text**, cut right after each newline. -/
def pieces (s : Text) : List Text := piecesWithin s.length s

theorem flatten_piecesWithin (n : Nat) (s : Text) : (piecesWithin n s).flatten = s := by
  induction n generalizing s with
  | zero => cases s <;> simp [piecesWithin]
  | succ n ih =>
    cases s with
    | nil => rfl
    | cons c s => simp [piecesWithin, ih, splitPiece_append]

theorem flatten_pieces (s : Text) : (pieces s).flatten = s := flatten_piecesWithin _ s

/-! ### Bodies and terminators -/

/-- The body of a piece: what is left without its newline, and without a carriage
return right before that newline. -/
def body (piece : Text) : Text :=
  match piece.reverse with
  | '\n' :: '\r' :: r => r.reverse
  | '\n' :: r => r.reverse
  | _ => piece

/-- The terminator of a piece: a newline, a carriage return and a newline, or
nothing. -/
def terminator (piece : Text) : Text :=
  match piece.reverse with
  | '\n' :: '\r' :: _ => ['\r', '\n']
  | '\n' :: _ => ['\n']
  | _ => []

theorem body_append_terminator (piece : Text) : body piece ++ terminator piece = piece := by
  rw [← List.reverse_inj]
  unfold body terminator
  split <;> simp_all

/-- The lines of a text: the bodies of its pieces. -/
def lines (s : Text) : List Text := (pieces s).map body

end GnuLint.Text
