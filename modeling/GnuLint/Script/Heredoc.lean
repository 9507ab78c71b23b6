import GnuLint.Text.Blank

/-!
# Here-document openers

A here-document is opened by two less-than signs, perhaps a hyphen, blanks, perhaps a
quote, and a delimiter that is an identifier. The signs must not follow another
less-than sign, since three of them make a here-string; and inside an arithmetic group
they are a left shift. A group is taken to be open where more pairs of opening
parentheses than pairs of closing ones stand before the opener; pairs are counted from
the left and do not overlap.

`GnuLint.Heredoc.delimiter?` is the delimiter of the first here-document that a line
opens.
-/

namespace GnuLint.Heredoc

/-! ### Delimiters -/

/-- Whether a character can begin a delimiter. -/
def isIdentStart (c : Char) : Bool := c.isAlpha || c == '_'

/-- Whether a character can go on a delimiter. -/
def isIdentChar (c : Char) : Bool := c.isAlphanum || c == '_'

/-- The text without a leading hyphen. -/
def skipHyphen : Text → Text
  | '-' :: s => s
  | s => s

/-- The text without a leading quote. -/
def skipQuote : Text → Text
  | '"' :: s => s
  | '\'' :: s => s
  | s => s

/-- The delimiter right after the two signs, and what follows it and its quote. -/
def read? (s : Text) : Option (Text × Text) :=
  let s := skipQuote (Text.trimStart (skipHyphen s))
  if s.head?.any isIdentStart then
    some (s.takeWhile isIdentChar, skipQuote (s.dropWhile isIdentChar))
  else none

/-! ### Openers -/

/-- An opener at the very beginning of a text: its delimiter, and what follows it. At the
start of a line the two signs may come first; anywhere, they may follow one character. -/
def opener? (atStart : Bool) (s : Text) : Option (Text × Text) :=
  let first := match s with
    | '<' :: '<' :: r => if atStart then read? r else none
    | _ => none
  first.or <| match s with
    | c :: '<' :: '<' :: r => if c = '<' then none else read? r
    | _ => none

/-- An opener on a line. -/
structure Opener where
  /-- The text before it, not counting the character that the two signs follow. -/
  before : Text
  /-- The delimiter. -/
  delimiter : Text
  deriving DecidableEq, Repr

/-- An opener with more text before it. -/
def Opener.after (o : Opener) (text : Text) : Opener := { o with before := text ++ o.before }

/-- The openers of a text, from left to right and without overlap. The bound counts
characters. -/
def openersWithin : Nat → (atStart : Bool) → Text → List Opener
  | 0, _, _ => []
  | n + 1, atStart, s =>
    match opener? atStart s with
    | some (delimiter, rest) =>
      let taken := s.take (s.length - rest.length)
      ⟨[], delimiter⟩ :: (openersWithin n false rest).map (·.after taken)
    | none =>
      match s with
      | [] => []
      | c :: s => (openersWithin n false s).map (·.after [c])

/-- The openers of a line. -/
def openers (line : Text) : List Opener := openersWithin (line.length + 1) true line

/-! ### Arithmetic groups -/

/-- How many pairs of a character stand in a text, counted from the left. -/
def countPairs (c : Char) : Text → Nat
  | a :: b :: s => if a = c ∧ b = c then countPairs c s + 1 else countPairs c (b :: s)
  | _ => 0

/-- Whether an arithmetic group is open after a text. -/
def inArithmetic (before : Text) : Bool := countPairs ')' before < countPairs '(' before

/-- **The delimiter of the first here-document that a line opens**, if it opens one. -/
def delimiter? (line : Text) : Option Text :=
  ((openers line).find? fun o => !inArithmetic o.before).map Opener.delimiter

end GnuLint.Heredoc
