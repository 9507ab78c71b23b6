import GnuLint.Text.Basic

/-!
# Blank characters

A line is blank, and the ends of a text are trimmed, by the characters with the
Unicode property `White_Space`: the ASCII blanks, the next-line and no-break
controls, and the space separators.
-/

namespace GnuLint.Text

/-- The characters with the property `White_Space`. -/
def isBlank (c : Char) : Bool :=
  c == ' ' || ('\t' ≤ c && c ≤ '\r') || c == '\u0085' || c == '\u00a0' || c == '\u1680' ||
  ('\u2000' ≤ c && c ≤ '\u200a') || c == '\u2028' || c == '\u2029' || c == '\u202f' ||
  c == '\u205f' || c == '\u3000'

/-! ### Trimming -/

/-- The text without its leading blanks. -/
def trimStart (s : Text) : Text := s.dropWhile isBlank

/-- The text without its trailing blanks. -/
def trimEnd (s : Text) : Text := s.reverse.dropWhile isBlank |>.reverse

/-- The text without the blanks at its two ends. -/
def trim (s : Text) : Text := trimEnd (trimStart s)

/-- Whether nothing is left of a text once its ends are trimmed. -/
def isAllBlank (s : Text) : Bool := s.all isBlank

end GnuLint.Text
