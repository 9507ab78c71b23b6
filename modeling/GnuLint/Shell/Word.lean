import GnuLint.Shell.Cursor

/-!
# Words

A word goes on to the next blank, newline or operator that is not quoted. Parts of it may
be quoted or expanded, and both may be nested: a command in a word is parsed like any
other command. What is to be read is named by a goal, and every function here reaches the
reading of other goals through its first argument, so that nothing in this file recurses
(`GnuLint.Shell.parse` closes the circle).

* Between single quotes, everything stands for itself.
* Between double quotes, only backslashes, backquotes and dollar signs are special.
* Between backquotes, only backslashes are; the command there is not parsed.
* Between braces, brackets and parentheses after a dollar sign, quotes and expansions are;
  only parentheses are counted.
-/

namespace GnuLint.Shell

/-- A stretch of text that ends with a certain character. -/
inductive Stretch
  /-- Up to a double quote. -/
  | double
  /-- Up to a backquote. -/
  | back
  /-- Up to a single quote, with escapes. -/
  | escaped
  /-- Up to a closing brace. -/
  | brace
  /-- Up to a closing bracket. -/
  | bracket
  /-- Up to the closing parenthesis that matches. -/
  | parenthesis
  deriving DecidableEq, Repr

/-- The character that ends a stretch. -/
def Stretch.close : Stretch → Char
  | double => '"'
  | back => '\x60'
  | escaped => '\''
  | brace => '\x7d'
  | bracket => ']'
  | parenthesis => ')'

/-- The character that opens another stretch of the kind inside one, if one is counted. -/
def Stretch.reopen? : Stretch → Option Char
  | bracket => some '['
  | parenthesis => some '('
  | _ => none

/-- Whether quotes mean something inside a stretch. -/
def Stretch.hasQuotes : Stretch → Bool
  | brace | bracket | parenthesis => true
  | double | back | escaped => false

/-- Whether dollar signs mean something inside a stretch. -/
def Stretch.hasExpansions : Stretch → Bool
  | back | escaped => false
  | _ => true

/-- What is to be read. -/
inductive Goal
  /-- The rest of a stretch, and the character that ends it. -/
  | stretch (s : Stretch)
  /-- The rest of a word. -/
  | word
  /-- The rest of a pattern to match a text with, in a condition. -/
  | pattern (regex : Bool)
  /-- The rest of a list of words between parentheses. -/
  | items
  /-- Commands in a word, and the closing parenthesis. -/
  | substitution
  /-- The rest of a simple command, given whether assignments may come and whether they may
  assign lists of words. -/
  | elements (assigns lists : Bool)
  /-- The rest of some redirections. -/
  | redirections
  /-- The words of a loop. -/
  | words
  /-- A command. -/
  | command
  /-- A pipeline. -/
  | pipeline
  /-- The rest of a pipeline, after a command. -/
  | pipes
  /-- Pipelines joined by conditions. -/
  | conditional
  /-- One command or more. -/
  | list
  /-- The rest of a list, after a command. -/
  | listRest
  /-- The branches of a condition, after the commands to test. -/
  | branches
  /-- The rest of the cases of a choice. -/
  | cases
  /-- The rest of the patterns of a case, and the closing parenthesis. -/
  | patterns
  /-- A test between double brackets: alternatives, parts, and a single term. -/
  | anyOf | allOf | term
  deriving DecidableEq, Repr

/-- The place after something was read, or what is wrong with it. -/
abbrev Reading := Except SyntaxError Cursor

/-- How to read each goal. -/
abbrev Reader := Goal → Cursor → Reading

/-! ### Quotes and expansions -/

/-- The place after a single quote that ends a quoted stretch. -/
def readSingle (c : Cursor) : Reading :=
  let body := c.rest.takeWhile (· != '\'')
  let d := c.advanceBy body.length
  if d.isAtEnd then .error (.unfinished d.line) else .ok d.advance

/-- The place after what a dollar sign begins; `quoted` says whether it stands between
double quotes. -/
def readDollar (read : Reader) (quoted : Bool) (c : Cursor) : Reading :=
  match c.rest with
  | '$' :: _ => .ok c.advance
  | '(' :: '(' :: _ => read (.stretch .parenthesis) c.advance
  | '(' :: _ => read .substitution c.advance
  | '\x7b' :: _ => read (.stretch .brace) c.advance
  | '[' :: _ => read (.stretch .bracket) c.advance
  | '\'' :: _ => if quoted then .ok c else read (.stretch .escaped) c.advance
  | '"' :: _ => if quoted then .ok c else read (.stretch .double) c.advance
  | _ => .ok c

/-- The place after a quoted part that begins here, if one does. -/
def readQuoted? (read : Reader) (c : Cursor) : Option Reading :=
  match c.rest with
  | '\'' :: _ => some (readSingle c.advance)
  | '"' :: _ => some (read (.stretch .double) c.advance)
  | '\x60' :: _ => some (read (.stretch .back) c.advance)
  | _ => none

/-- The rest of a stretch. -/
def readStretch (read : Reader) (s : Stretch) (c : Cursor) : Reading :=
  match c.rest with
  | [] => .error (.unfinished c.line)
  | x :: _ =>
    if x = s.close then .ok c.advance
    else if x = '\\' then read (.stretch s) (c.advanceBy 2)
    else if x = '$' ∧ s.hasExpansions then do
      let d ← readDollar read (s == .double) c.advance
      read (.stretch s) d
    else if s = .double ∧ x = '\x60' then do
      let d ← read (.stretch .back) c.advance
      read (.stretch s) d
    else if s.reopen? = some x then do
      let d ← read (.stretch s) c.advance
      read (.stretch s) d
    else
      match if s.hasQuotes then readQuoted? read c else none with
      | some quoted => do read (.stretch s) (← quoted)
      | none => read (.stretch s) c.advance

/-! ### Words -/

/-- The rest of a word. -/
def readWord (read : Reader) (c : Cursor) : Reading :=
  match c.rest with
  | [] => .ok c
  | '\\' :: _ => read .word (c.advanceBy 2)
  | '$' :: _ => do read .word (← readDollar read false c.advance)
  | '<' :: '(' :: _ | '>' :: '(' :: _ => do
    read .word (← read .substitution (c.advanceBy 2))
  | x :: _ =>
    match readQuoted? read c with
    | some quoted => do read .word (← quoted)
    | none => if Cursor.isMeta x then .ok c else read .word c.advance

/-- The rest of a pattern in a condition. Parentheses group there, after a sign that says
how often the group counts or, in a regular expression, anywhere; in a regular expression
bars separate alternatives. -/
def readPattern (read : Reader) (regex : Bool) (c : Cursor) : Reading :=
  match c.rest with
  | [] => .ok c
  | '\\' :: _ => read (.pattern regex) (c.advanceBy 2)
  | '$' :: _ => do read (.pattern regex) (← readDollar read false c.advance)
  | x :: y :: _ =>
    if regex ∧ x = '(' then do
      read (.pattern regex) (← read (.stretch .parenthesis) c.advance)
    else if regex ∧ x = '|' then read (.pattern regex) c.advance
    else if y = '(' ∧ (x = '?' ∨ x = '*' ∨ x = '+' ∨ x = '@' ∨ x = '!') then do
      read (.pattern regex) (← read (.stretch .parenthesis) (c.advanceBy 2))
    else
      match readQuoted? read c with
      | some quoted => do read (.pattern regex) (← quoted)
      | none => if Cursor.isMeta x then .ok c else read (.pattern regex) c.advance
  | [x] =>
    match readQuoted? read c with
    | some quoted => quoted
    | none => if Cursor.isMeta x then .ok c else .ok c.advance

/-- The rest of a list of words between parentheses. -/
def readItems (read : Reader) (c : Cursor) : Reading := do
  let c := c.skipLines
  match c.rest with
  | ')' :: _ => return c.advance
  | '[' :: _ =>
    let d ← read (.stretch .bracket) c.advance
    read .items (← read .word d)
  | _ =>
    if c.isAtWord then read .items (← read .word c)
    else throw c.unexpected

/-- Commands in a word, and the closing parenthesis; there may be none. -/
def readSubstitution (read : Reader) (c : Cursor) : Reading := do
  let start := { c with nested := true }.skipLines
  match start.skip? ")" with
  | some d => return { d with nested := c.nested }
  | none =>
    let d := (← read .list start).skipLines
    match d.skip? ")" with
    | some e => return { e with nested := c.nested }
    | none => throw d.unexpected

/-! ### Assignments -/

/-- What follows a name and, after an opening bracket, the bracket. -/
def isSubscripted (c : Cursor) : Bool :=
  match c.rest.dropWhile fun x => x.isAlphanum || x == '_' with
  | '[' :: _ => c.rest.head?.any fun x => x.isAlpha || x == '_'
  | _ => false

/-- A word that may be an assignment: a name may be followed by a subscript with blanks in
it. -/
def readAssignment (read : Reader) (c : Cursor) : Reading :=
  if isSubscripted c then do
    let name := c.rest.takeWhile (· != '[')
    read .word (← read (.stretch .bracket) (c.advanceBy (name.length + 1)))
  else read .word c

/-- What follows the name, the subscript and the sign of an assignment; `none` if a word is
no assignment. -/
def assigned? (word : Text) : Option Text :=
  let rest := word.dropWhile fun x => x.isAlphanum || x == '_'
  let afterSubscript := match rest with
    | '[' :: s => match s.dropWhile (· != ']') with
      | _ :: s => s
      | [] => []
    | s => s
  if word.head?.any fun x => x.isAlpha || x == '_' then
    match afterSubscript with
    | '=' :: s => some s
    | '+' :: '=' :: s => some s
    | _ => none
  else none

end GnuLint.Shell
