import GnuLint.Text.Basic

/-!
# Reading Perl patterns

A Perl pattern is read from left to right into tokens: escapes, bracket expressions,
intervals, and single characters. The reading never fails; what is cut short by the end of
the pattern, and a group that begins like an extension, are tokens of their own. Which
tokens have a counterpart elsewhere is a question for their translation.

* A brace opens an interval only if it goes on as one: a number, perhaps a comma and
  perhaps another number, and the closing brace.
* A bracket expression ends at the first closing bracket that is not its first item. A
  class name inside it goes on to the next closing bracket.
-/

namespace GnuLint.Grep

/-! ### Tokens -/

/-- What stands inside a bracket expression. -/
inductive BracketItem
  /-- A character after a backslash. -/
  | escape (c : Char)
  /-- A bracket and a colon, and what follows up to the next closing bracket or, if there
  is none, to the end of the pattern; the opening bracket is left out. -/
  | className (text : Text)
  /-- Any other character. -/
  | char (c : Char)
  deriving DecidableEq, Repr

/-- How a bracket expression ends. -/
inductive BracketEnd
  /-- With its closing bracket. -/
  | closed
  /-- With the end of the pattern. -/
  | unclosed
  /-- With a backslash at the end of the pattern. -/
  | backslash
  deriving DecidableEq, Repr

/-- A token of a Perl pattern. -/
inductive Token
  /-- A character after a backslash. -/
  | escape (c : Char)
  /-- A backslash at the end of the pattern. -/
  | backslash
  /-- The beginning of a group with an extension: an opening parenthesis and the three
  characters after it, the first of which is a question mark. -/
  | groupExtension (text : Text)
  /-- A bracket expression. -/
  | bracket (negated : Bool) (items : List BracketItem) (stop : BracketEnd)
  /-- An interval, without its opening brace. -/
  | interval (bounds : Text)
  /-- Any other character. -/
  | char (c : Char)
  deriving DecidableEq, Repr

/-- Whether a token says how often the one before it is repeated. -/
def Token.isQuantifier : Token → Bool
  | interval _ => true
  | char c => c == '*' || c == '+' || c == '?'
  | _ => false

/-! ### Intervals -/

/-- The bounds of an interval up to and including the closing brace, and what follows;
`none` if the text after a brace does not go on as an interval. -/
def interval? (s : Text) : Option (Text × Text) :=
  let least := s.takeWhile Char.isDigit
  if least.isEmpty then none
  else
    match s.dropWhile Char.isDigit with
    | '\x7d' :: rest => some (least ++ ['\x7d'], rest)
    | ',' :: r =>
      match r.dropWhile Char.isDigit with
      | '\x7d' :: rest => some (least ++ ',' :: r.takeWhile Char.isDigit ++ ['\x7d'], rest)
      | _ => none
    | _ => none

/-! ### Bracket expressions -/

/-- The text up to and including the next closing bracket, and what follows. -/
def splitBracket : Text → Text × Text
  | [] => ([], [])
  | ']' :: s => ([']'], s)
  | c :: s =>
    let (name, rest) := splitBracket s
    (c :: name, rest)

/-- The items of a bracket expression, how it ends, and what follows it; `first` says
whether the next item would be the first. The bound counts items. -/
def bracketItems : Nat → (first : Bool) → Text → List BracketItem × BracketEnd × Text
  | 0, _, s => ([], .unclosed, s)
  | _, _, [] => ([], .unclosed, [])
  | n + 1, first, c :: s =>
    if c = ']' ∧ ¬first then ([], .closed, s)
    else if c = '\\' then
      match s with
      | [] => ([], .backslash, [])
      | e :: s =>
        let (items, stop, rest) := bracketItems n false s
        (.escape e :: items, stop, rest)
    else if c = '[' ∧ s.head? = some ':' then
      let (name, s) := splitBracket s
      let (items, stop, rest) := bracketItems n false s
      (.className name :: items, stop, rest)
    else
      let (items, stop, rest) := bracketItems n false s
      (.char c :: items, stop, rest)

/-- A bracket expression, after its opening bracket, and what follows it. -/
def bracket (s : Text) : Token × Text :=
  let (negated, s) := match s with
    | '^' :: s => (true, s)
    | s => (false, s)
  let (items, stop, rest) := bracketItems (s.length + 1) true s
  (.bracket negated items stop, rest)

/-! ### Patterns -/

/-- The token at the beginning of a text that is not empty, and what follows it. -/
def token (c : Char) (s : Text) : Token × Text :=
  match c with
  | '\\' =>
    match s with
    | [] => (.backslash, [])
    | e :: rest => (.escape e, rest)
  | '(' =>
    if s.head? = some '?' then (.groupExtension ('(' :: s.take 3), s.drop 3)
    else (.char '(', s)
  | '[' => bracket s
  | '\x7b' =>
    match interval? s with
    | some (bounds, rest) => (.interval bounds, rest)
    | none => (.char '\x7b', s)
  | c => (.char c, s)

/-- The tokens of a text; the bound counts them. -/
def tokensWithin : Nat → Text → List Token
  | 0, _ => []
  | _, [] => []
  | n + 1, c :: s =>
    let (t, rest) := token c s
    t :: tokensWithin n rest

/-- **The tokens of a Perl pattern.** -/
def tokens (s : Text) : List Token := tokensWithin s.length s

end GnuLint.Grep
