import GnuLint.Text.Basic
import GnuLint.Toml.Scalar

/-!
# TOML strings

A string stands between double quotes, with escapes, or between single quotes, without.
Three quotes in a row make either of them run over several lines: a newline right after
the opening quotes does not count, a backslash at the end of a line swallows the blanks
and newlines up to the next character, and one or two more quotes right before the
closing ones belong to the string.
-/

namespace GnuLint.Toml

/-- Whether a character may stand in a string or in a comment: a tab, or no control. -/
def isPlain (c : Char) : Bool := c == '\t' || (' ' ≤ c && c != '\x7f')

/-- What follows a newline, which is a line feed, perhaps after a carriage return. -/
def afterNewline? : Text → Option Text
  | '\n' :: s => some s
  | '\r' :: '\n' :: s => some s
  | _ => none

namespace Quoted

/-! ### Escapes -/

/-- The character of a number, if it is one. -/
def char? (n : Nat) : Option Char := if h : n.isValidChar then some (Char.ofNatAux n h) else none

/-- The character whose number some digits in base sixteen write. -/
def numbered? (digits : Text) : Option Char := do
  let ds ← digits.mapM (Scalar.digit? 16)
  char? (Scalar.value 16 ds)

/-- The character that is escaped by a given number of digits, and what follows. -/
def numberedEscape? (count : Nat) (s : Text) : Option (Char × Text) :=
  if s.length < count then none
  else (numbered? (s.take count)).map fun c => (c, s.drop count)

/-- The character that an escape stands for, and what follows. -/
def escape? : Text → Option (Char × Text)
  | '"' :: s => some ('"', s)
  | '\\' :: s => some ('\\', s)
  | 'b' :: s => some ('\x08', s)
  | 't' :: s => some ('\t', s)
  | 'n' :: s => some ('\n', s)
  | 'f' :: s => some ('\x0c', s)
  | 'r' :: s => some ('\r', s)
  | 'e' :: s => some ('\x1b', s)
  | 'x' :: s => numberedEscape? 2 s
  | 'u' :: s => numberedEscape? 4 s
  | 'U' :: s => numberedEscape? 8 s
  | _ => none

/-! ### On one line -/

/-- A string between double quotes, after the opening one, and what follows. The bound
counts characters. -/
def basicWithin : Nat → Text → Except Error (Text × Text)
  | 0, _ => .error .string
  | n + 1, s =>
    match s with
    | [] => .error .string
    | '"' :: s => .ok ([], s)
    | '\\' :: s =>
      match escape? s with
      | none => .error .escape
      | some (c, s) => (basicWithin n s).map fun (t, rest) => (c :: t, rest)
    | c :: s =>
      if isPlain c then (basicWithin n s).map fun (t, rest) => (c :: t, rest)
      else .error .string

/-- A string between single quotes, after the opening one, and what follows. -/
def literal : Text → Except Error (Text × Text)
  | [] => .error .string
  | '\'' :: s => .ok ([], s)
  | c :: s =>
    if isPlain c then (literal s).map fun (t, rest) => (c :: t, rest) else .error .string

/-! ### On several lines -/

/-- Quotes that close a string on several lines: how many of them belong to the string,
and what follows the last one; `none` if there are less than three. -/
def closing? (quote : Char) (s : Text) : Option (Nat × Text) :=
  let count := ((s.take 5).takeWhile (· == quote)).length
  if count < 3 then none else some (count - 3, s.drop count)

/-- What follows a backslash at the end of a line and the blanks and newlines after it. -/
def afterLineEnd? (s : Text) : Option Text :=
  match afterNewline? (s.dropWhile fun c => c == ' ' || c == '\t') with
  | none => none
  | some s => some (skipAll s)
where
  skipAll : Text → Text
    | ' ' :: s | '\t' :: s | '\n' :: s => skipAll s
    | '\r' :: '\n' :: s => skipAll s
    | s => s

/-- A string on several lines, after the opening quotes, and what follows; escapes are
read only between double quotes. The bound counts characters. -/
def linesWithin (quote : Char) : Nat → Text → Except Error (Text × Text)
  | 0, _ => .error .string
  | n + 1, s =>
    match closing? quote s with
    | some (extra, rest) => .ok (List.replicate extra quote, rest)
    | none =>
      match afterNewline? s with
      | some s => (linesWithin quote n s).map fun (t, rest) => ('\n' :: t, rest)
      | none =>
        match s with
        | [] => .error .string
        | c :: s =>
          if c == '\\' && quote == '"' then
            match escape? s, afterLineEnd? s with
            | some (c, s), _ => (linesWithin quote n s).map fun (t, rest) => (c :: t, rest)
            | none, some s => linesWithin quote n s
            | none, none => .error .escape
          else if isPlain c then
            (linesWithin quote n s).map fun (t, rest) => (c :: t, rest)
          else .error .string

/-- A string on several lines, after the opening quotes, and what follows. -/
def lines (quote : Char) (s : Text) : Except Error (Text × Text) :=
  let s := (afterNewline? s).getD s
  linesWithin quote (s.length + 1) s

/-- A string on one line, quotes included, and what follows; `none` if the text does not
begin with a quote. -/
def onLine? (s : Text) : Option (Except Error (Text × Text)) :=
  match s with
  | '"' :: s => some (basicWithin (s.length + 1) s)
  | '\'' :: s => some (literal s)
  | _ => none

/-- A string of any kind, quotes included, and what follows; `none` if the text does not
begin with a quote. -/
def any? (s : Text) : Option (Except Error (Text × Text)) :=
  match s with
  | '"' :: '"' :: '"' :: s => some (lines '"' s)
  | '\'' :: '\'' :: '\'' :: s => some (lines '\'' s)
  | s => onLine? s

end Quoted

end GnuLint.Toml
