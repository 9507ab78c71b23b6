import GnuLint.Text.Basic

/-!
# Padding

A text in a column of a table is filled up with blanks, on the right or on the left; one
that is too wide for its column sticks out.
-/

namespace GnuLint.Text

/-- A text filled up with blanks on the right to a number of characters. -/
def padRight (width : Nat) (s : Text) : Text := s ++ List.replicate (width - s.length) ' '

/-- A text filled up with blanks on the left to a number of characters. -/
def padLeft (width : Nat) (s : Text) : Text := List.replicate (width - s.length) ' ' ++ s

end GnuLint.Text
