import GnuLint.Unicode.Extra
import GnuLint.Text.Basic

/-!
# Quoted text

A message quotes a text that it cannot vouch for between double quotes, with a
backslash escape for the quote, the backslash and the usual controls, and a
numbered escape for every character that would not show on its own: an unprintable
one, or a mark that attaches itself to the character before it.
-/

namespace GnuLint.Text

open Unicode

/-- Whether a character shows as itself: it is assigned, and it is neither a
control, a format character, a surrogate, a private character nor a separator
other than the space. -/
def isPrintable (c : Char) : Bool :=
  if c.val < 0x7f then ' ' ≤ c
  else
    !(GeneralCategory.control.mem c || GeneralCategory.format.mem c ||
      GeneralCategory.privateUse.mem c || GeneralCategory.unassigned.mem c ||
      GeneralCategory.spaceSeparator.mem c || GeneralCategory.lineSeparator.mem c ||
      GeneralCategory.paragraphSeparator.mem c)

/-- The digits of a number in base sixteen, in lower case. -/
def hexDigits (n : Nat) : Text := Nat.toDigits 16 n

/-- The escape of a character by its number. -/
def numberedEscape (c : Char) : Text :=
  "\\u\x7b".toList ++ hexDigits c.toNat ++ "\x7d".toList

/-- A character as it stands inside quotes. -/
def quoteChar (c : Char) : Text :=
  match c with
  | '\x00' => "\\0".toList
  | '\t' => "\\t".toList
  | '\r' => "\\r".toList
  | '\n' => "\\n".toList
  | '\\' => "\\\\".toList
  | '"' => "\\\"".toList
  | c => if isGraphemeExtend c || !isPrintable c then numberedEscape c else [c]

/-- A text between double quotes, with every character that would not show on its
own escaped. -/
def quoted (s : Text) : Text := '"' :: (s.flatMap quoteChar ++ ['"'])

end GnuLint.Text
