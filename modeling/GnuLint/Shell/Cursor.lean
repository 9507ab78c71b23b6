import GnuLint.Text.Basic

/-!
# Reading a script

A script is read from front to back by a cursor: the text that is left, the number of the
line it begins on, and the here-documents that were announced on this line and whose
bodies begin on the next. Blanks are spaces and tabs; a backslash and a newline together
count for nothing; a comment reaches from a number sign to the end of the line.
-/

namespace GnuLint.Shell

/-- A here-document whose body is still to come. -/
structure Announced where
  /-- The line that ends the body. -/
  delimiter : Text
  /-- Whether tabs in front of a line do not count. -/
  stripTabs : Bool
  /-- Whether the delimiter was quoted; if not, a backslash joins lines of the body. -/
  quoted : Bool
  /-- Whether it belongs to a command in a word, whose closing parenthesis may follow the
  delimiter. -/
  nested : Bool
  deriving DecidableEq, Repr

/-- A place in a script. -/
structure Cursor where
  /-- The text that is left. -/
  rest : Text
  /-- The number of the line, from one on. -/
  line : Nat
  /-- The here-documents announced on this line. -/
  announced : List Announced
  /-- Whether the commands here stand in a word. -/
  nested : Bool
  deriving DecidableEq, Repr

/-- A cause for which a script is not well formed. -/
inductive SyntaxError
  /-- A word or an operator stands where it must not. -/
  | unexpected (line : Nat) (token : Text)
  /-- The script ends in the middle of something. -/
  | unfinished (line : Nat)
  deriving DecidableEq, Repr

namespace Cursor

/-- The beginning of a script. -/
def ofText (s : Text) : Cursor := ⟨s, 1, [], false⟩

/-! ### Single characters -/

/-- The cursor after one character. -/
def advance (c : Cursor) : Cursor :=
  match c.rest with
  | [] => c
  | '\n' :: s => { c with rest := s, line := c.line + 1 }
  | _ :: s => { c with rest := s }

/-- The cursor after some characters. -/
def advanceBy : Nat → Cursor → Cursor
  | 0, c => c
  | n + 1, c => advanceBy n c.advance

/-- The cursor after a text that stands in front of it, if it does. -/
def skip? (s : String) (c : Cursor) : Option Cursor :=
  if Text.startsWith c.rest s.toList then some (c.advanceBy s.toList.length) else none

/-- The text between two cursors. -/
def textTo (c d : Cursor) : Text := c.rest.take (c.rest.length - d.rest.length)

/-- Whether nothing is left. -/
def isAtEnd (c : Cursor) : Bool := c.rest.isEmpty

/-! ### Blanks and comments -/

/-- The cursor after blanks and joined lines; the bound counts them. -/
def skipBlanksWithin : Nat → Cursor → Cursor
  | 0, c => c
  | n + 1, c =>
    match c.rest with
    | ' ' :: _ | '\t' :: _ => skipBlanksWithin n c.advance
    | '\\' :: '\n' :: _ => skipBlanksWithin n (c.advanceBy 2)
    | _ => c

/-- The cursor after blanks, and after a comment if one follows. -/
def skipBlanks (c : Cursor) : Cursor :=
  let c := skipBlanksWithin c.rest.length c
  if c.rest.head? = some '#' then { c with rest := c.rest.dropWhile (· != '\n') } else c

/-! ### Bodies of here-documents -/

/-- A line and what follows it; with `join`, a backslash at its end joins the next line to
it. The bound counts characters. -/
def lineWithin (join : Bool) : Nat → Cursor → Text × Cursor
  | 0, c => ([], c)
  | n + 1, c =>
    match c.rest with
    | [] => ([], c)
    | '\n' :: _ => ([], c.advance)
    | '\\' :: '\n' :: _ =>
      if join then lineWithin join n (c.advanceBy 2)
      else (['\\'], c.advanceBy 2)
    | '\\' :: x :: _ =>
      let (line, d) := lineWithin join n (c.advanceBy 2)
      ('\\' :: x :: line, d)
    | x :: _ =>
      let (line, d) := lineWithin join n c.advance
      (x :: line, d)

/-- The cursor after the delimiter of a here-document in a word, if this line begins with it
and a closing parenthesis follows. -/
def skipNestedEnd? (doc : Announced) (c : Cursor) : Option Cursor :=
  let tabs := if doc.stripTabs then (c.rest.takeWhile (· == '\t')).length else 0
  let d := c.advanceBy tabs
  let line := d.rest.takeWhile (· != '\n')
  match Text.stripStart? line doc.delimiter with
  | some after =>
    if doc.nested && after.elem ')' then some (d.advanceBy doc.delimiter.length) else none
  | none => none

/-- The cursor after the body of a here-document, which the end of the script ends too. The
bound counts lines. -/
def skipBody (doc : Announced) : Nat → Cursor → Cursor
  | 0, c => c
  | n + 1, c =>
    match if c.isAtEnd then some c else skipNestedEnd? doc c with
    | some d => d
    | none =>
      let (line, d) := lineWithin (!doc.quoted) c.rest.length c
      let line := if doc.stripTabs then line.dropWhile (· == '\t') else line
      if line = doc.delimiter then d else skipBody doc n d

/-- The cursor after a newline and the bodies of the here-documents announced before it. -/
def nextLine (c : Cursor) : Cursor :=
  c.announced.foldl (fun c doc => skipBody doc (c.rest.length + 1) c)
    { c.advance with announced := [] }

/-- The cursor after newlines, blanks and comments; the bound counts lines. -/
def skipLinesWithin : Nat → Cursor → Cursor
  | 0, c => c
  | n + 1, c =>
    let c := c.skipBlanks
    if c.rest.head? = some '\n' then skipLinesWithin n c.nextLine else c

/-- The cursor after newlines, blanks and comments. -/
def skipLines (c : Cursor) : Cursor := skipLinesWithin (c.rest.length + 1) c

/-! ### Words as they stand -/

/-- Whether a character ends a word. -/
def isMeta (c : Char) : Bool :=
  c == ' ' || c == '\t' || c == '\n' || c == ';' || c == '&' || c == '|' || c == '<' ||
  c == '>' || c == '(' || c == ')'

/-- The characters up to the next one that ends a word. -/
def bareWord (c : Cursor) : Text := c.rest.takeWhile (!isMeta ·)

/-- The cursor after a word that stands in front of it, as it is spelled and with nothing
more to it, if it does. -/
def keyword? (word : String) (c : Cursor) : Option Cursor :=
  if c.bareWord = word.toList then some (c.advanceBy word.toList.length) else none

/-- Whether a word begins here; a process between parentheses counts as one. -/
def isAtWord (c : Cursor) : Bool :=
  match c.rest with
  | '<' :: '(' :: _ | '>' :: '(' :: _ => true
  | x :: _ => !isMeta x
  | [] => false

/-- The operators, longer ones before their beginnings. -/
def operators : List String :=
  [";;&", ";;", ";&", ";", "&&", "&>>", "&>", "&", "||", "|&", "|", "<<<", "<<-", "<<", "<&",
    "<>", "<", ">>", ">&", ">|", ">", "(", ")", "\n"]

/-- The word or the operator in front of the cursor, as a message names it. -/
def token (c : Cursor) : Text :=
  match operators.find? fun op => (c.skip? op).isSome with
  | some op => op.toList
  | none => c.bareWord

/-- The error that what stands here must not stand here. -/
def unexpected (c : Cursor) : SyntaxError :=
  if c.isAtEnd then .unfinished c.line else .unexpected c.line c.token

end Cursor

end GnuLint.Shell
