import GnuLint.Text.Basic

/-!
# Templates

A template is the text that replaces a match. A dollar sign in it begins a reference
to a group, by number or by name, with or without braces; two dollar signs stand for
one, and a dollar sign that begins neither stands for itself. Without braces, the name
is as long as letters, digits and underscores go.

A reference to a group that does not exist, or that took no part in the match, stands
for the empty text.
-/

namespace GnuLint

/-- A part of a template. -/
inductive TemplatePiece
  /-- A character that stands for itself. -/
  | char (c : Char)
  /-- A group, by its number. -/
  | number (n : Nat)
  /-- A group, by its name. -/
  | name (s : Text)
  deriving DecidableEq, Repr

namespace Template

/-- Whether a character may stand in a name without braces. -/
def isNameChar (c : Char) : Bool := c.isAlphanum || c == '_'

/-- The number that a text writes: digits, perhaps after a plus sign, for a number
below 2⁶⁴. -/
def number? (s : Text) : Option Nat :=
  let digits := match s with
    | '+' :: r => r
    | r => r
  let n := digits.foldl (fun n c => 10 * n + (c.toNat - '0'.toNat)) 0
  if !digits.isEmpty && digits.all Char.isDigit && n < Nat.pow 2 64 then some n else none

/-- The reference that a name makes. -/
def reference (s : Text) : TemplatePiece :=
  match number? s with
  | some n => .number n
  | none => .name s

/-- The parts of a template. The bound counts parts: no text has more of them than
characters. -/
def piecesWithin : Nat → Text → List TemplatePiece
  | 0, _ => []
  | _, [] => []
  | n + 1, '$' :: '$' :: s => .char '$' :: piecesWithin n s
  | n + 1, '$' :: s =>
    let (name, rest) :=
      match s with
      | '\x7b' :: t =>
        match t.span (· != '\x7d') with
        | (name, _ :: rest) => (some name, rest)
        | (_, []) => (none, s)
      | s =>
        match s.span isNameChar with
        | ([], _) => (none, s)
        | (name, rest) => (some name, rest)
    match name with
    | some name => reference name :: piecesWithin n rest
    | none => .char '$' :: piecesWithin n s
  | n + 1, c :: s => .char c :: piecesWithin n s

/-- **The parts of a template.** -/
def pieces (s : Text) : List TemplatePiece := piecesWithin s.length s

/-- The text that a template makes, given the text of each group. -/
def expand (group : TemplatePiece → Text) (s : Text) : Text :=
  (pieces s).flatMap fun
    | .char c => [c]
    | piece => group piece

end Template

end GnuLint
