import GnuLint.Shell.Word

/-!
# Commands

A command is simple – assignments, words and redirections – or compound: a loop, a
condition, a choice, a group, a test. A reserved word is one only where a command begins,
and only if no part of it is quoted.

Like the functions on words, the ones here read other goals through their first argument.
-/

namespace GnuLint.Shell

/-- The words that go on or end a compound command. -/
def closingWords : List String := ["then", "else", "elif", "fi", "do", "done", "esac", "\x7d"]

/-- The reserved words that no command begins with. -/
def misplacedWords : List String := closingWords ++ ["in", "]]", "!"]

namespace Cursor

/-- Whether one of some words stands in front of the cursor. -/
def isAtAny (words : List String) (c : Cursor) : Bool :=
  words.any fun w => (c.keyword? w).isSome

/-- Whether an operator that ends a case stands in front of the cursor. -/
def isAtCaseEnd (c : Cursor) : Bool := Text.startsWith c.rest ";;".toList ||
  Text.startsWith c.rest ";&".toList

/-- The place after the sign of a redirection and the number or the name in front of it, and
whether it announces a here-document, and one whose tabs do not count. -/
def redirection? (c : Cursor) : Option (Cursor × Option Bool) :=
  let digits := c.rest.takeWhile Char.isDigit
  let name := match c.rest with
    | '\x7b' :: s => s.takeWhile fun (x : Char) => x.isAlphanum || x == '_'
    | _ => []
  let afterName := c.advanceBy (name.length + 1)
  let d :=
    if !name.isEmpty && afterName.rest.head? = some '\x7d' then afterName.advance
    else c.advanceBy digits.length
  let found (signs : List String) (heredoc : Option Bool) : Option (Cursor × Option Bool) :=
    (signs.findSome? fun sign => d.skip? sign).map fun e => (e, heredoc)
  if (d.skip? "<(").isSome || (d.skip? ">(").isSome then none
  else
    (found ["<<<"] none).or <| (found ["<<-"] (some true)).or <|
      (found ["<<"] (some false)).or <| (found ["<&", "<>", "<", ">>", ">&", ">|", ">"] none).or <|
        ["&>>", "&>"].findSome? fun sign => (c.skip? sign).map fun e => (e, none)

/-- Whether a command can begin here. -/
def isAtCommand (c : Cursor) : Bool :=
  !c.isAtAny closingWords &&
    (c.isAtWord || c.redirection?.isSome || c.rest.head? = some '(')

end Cursor

/-! ### Redirections -/

/-- A delimiter without its quotes. -/
def unquote : Text → Text
  | [] => []
  | '\\' :: x :: s => x :: unquote s
  | x :: s => if x = '\'' ∨ x = '"' then unquote s else x :: unquote s

/-- A redirection, if one begins here. -/
def readRedirection? (read : Reader) (c : Cursor) : Option Reading :=
  c.redirection?.map fun (d, heredoc) => do
    let d := d.skipBlanks
    if !d.isAtWord || d.redirection?.isSome then throw d.unexpected
    let e ← read .word d
    match heredoc with
    | none => return e
    | some stripTabs =>
      let word := d.textTo e
      let delimiter := unquote word
      let doc : Announced := ⟨delimiter, stripTabs, delimiter ≠ word, d.nested⟩
      return { e with announced := e.announced ++ [doc] }

/-- The rest of some redirections. -/
def readRedirections (read : Reader) (c : Cursor) : Reading :=
  match readRedirection? read c.skipBlanks with
  | some redirection => do read .redirections (← redirection)
  | none => .ok c

/-! ### Simple commands -/

/-- The commands that take assignments as arguments. -/
def declarations : List String :=
  ["alias", "declare", "eval", "export", "let", "local", "readonly", "typeset"]

/-- The rest of a simple command. -/
def readElements (read : Reader) (assigns lists : Bool) (c : Cursor) : Reading :=
  let c := c.skipBlanks
  match readRedirection? read c with
  | some redirection => do read (.elements assigns lists) (← redirection)
  | none =>
    if !c.isAtWord then .ok c
    else do
      let d ← if assigns then readAssignment read c else read .word c
      let word := c.textTo d
      if (assigns || lists) && assigned? word == some [] && d.rest.head? == some '(' then
        read (.elements assigns lists) (← read .word (← read .items d.advance))
      else
        let declares := declarations.any fun w => w.toList == word
        read (.elements (assigns && (assigned? word).isSome) (lists || (assigns && declares))) d

/-! ### Parts of compound commands -/

/-- The place after a word that has to stand here. -/
def expectWord (word : String) (c : Cursor) : Reading :=
  match c.keyword? word with
  | some d => .ok d
  | none => .error c.unexpected

/-- A list of commands and the word that ends it. -/
def readUntil (read : Reader) (word : String) (c : Cursor) : Reading := do
  expectWord word (← read .list c).skipLines

/-- The body of a loop, between `do` and `done` or between braces. -/
def readBody (read : Reader) (braces : Bool) (c : Cursor) : Reading :=
  match c.keyword? "do" with
  | some d => readUntil read "done" d
  | none =>
    match c.keyword? "\x7b" with
    | some d => if braces then readUntil read "\x7d" d else .error c.unexpected
    | none => .error c.unexpected

/-- A word that has to stand here. -/
def expectAnyWord (read : Reader) (c : Cursor) : Reading :=
  let c := c.skipBlanks
  if c.isAtWord then read .word c else .error c.unexpected

/-- The words of a loop. -/
def readWords (read : Reader) (c : Cursor) : Reading :=
  let c := c.skipBlanks
  if c.isAtWord then do read .words (← read .word c) else .ok c

/-- The place after a semicolon or a newline, and the newlines after it. -/
def expectBreak (c : Cursor) : Reading :=
  let c := c.skipBlanks
  if c.isAtCaseEnd then .error c.unexpected
  else
    match c.rest with
    | ';' :: _ => .ok c.advance.skipLines
    | '\n' :: _ => .ok c.skipLines
    | _ => .error c.unexpected

/-! ### Loops -/

/-- The number of semicolons in a text. -/
def countSemicolons (s : Text) : Nat := s.countP (· == ';')

/-- A loop over numbers, after the two opening parentheses. -/
def readCounting (read : Reader) (c : Cursor) : Reading := do
  let d ← read (.stretch .parenthesis) c
  match d.skip? ")" with
  | none => throw d.unexpected
  | some e =>
    if countSemicolons (c.textTo d) ≠ 2 then throw (.unexpected c.line "((".toList)
    let f := e.skipBlanks
    if f.rest.head? == some ';' || f.rest.head? == some '\n' then
      readBody read true (← expectBreak f)
    else readBody read true f

/-- A loop over words, after its first word. -/
def readOver (read : Reader) (c : Cursor) : Reading := do
  let d ← expectAnyWord read c
  let e := d.skipBlanks
  if e.rest.head? == some ';' && !e.isAtCaseEnd then
    readBody read true e.advance.skipLines
  else
    let e := e.skipLines
    match e.keyword? "in" with
    | some f => readBody read true (← expectBreak (← read .words f))
    | none => readBody read true e

/-- A loop with a condition, after its first word. -/
def readWhile (read : Reader) (c : Cursor) : Reading := do
  readBody read false (← read .list c).skipLines

/-! ### Conditions and choices -/

/-- The branches of a condition, after the commands to test. -/
def readBranches (read : Reader) (c : Cursor) : Reading := do
  let d ← expectWord "then" c.skipLines
  let e := (← read .list d).skipLines
  match e.keyword? "fi" with
  | some f => return f
  | none =>
    match e.keyword? "elif" with
    | some f => do read .branches (← read .list f)
    | none => do readUntil read "fi" (← expectWord "else" e)

/-- The rest of the patterns of a case, and the closing parenthesis. -/
def readPatterns (read : Reader) (c : Cursor) : Reading := do
  let d := (← expectAnyWord read c).skipBlanks
  match d.rest with
  | ')' :: _ => return d.advance
  | '|' :: y :: _ =>
    if y == '|' || y == '&' then throw d.unexpected else read .patterns d.advance
  | _ => throw d.unexpected

/-- The rest of the cases of a choice. -/
def readCases (read : Reader) (c : Cursor) : Reading := do
  let c := c.skipLines
  match c.keyword? "esac" with
  | some d => return d
  | none =>
    let d ← read .patterns ((c.skip? "(").getD c)
    let e := d.skipLines
    let f ←
      if e.isAtCaseEnd || (e.keyword? "esac").isSome then pure e
      else pure (← read .list e).skipLines
    match [";;&", ";;", ";&"].findSome? fun op => f.skip? op with
    | some g => read .cases g
    | none => expectWord "esac" f

/-- A choice, after its first word. -/
def readCase (read : Reader) (c : Cursor) : Reading := do
  let d := (← expectAnyWord read c).skipLines
  read .cases (← expectWord "in" d)

/-! ### Tests -/

/-- The tests that take one word. -/
def unaryTests : List Char := "abcdefghknoprstuvwxzGLNORS".toList

/-- Whether a word is a test that takes one word. -/
def isUnaryTest (word : Text) : Bool :=
  match word with
  | ['-', x] => unaryTests.elem x
  | _ => false

/-- The tests that take two words. -/
def binaryTests : List String :=
  ["=", "==", "!=", "=~", "-eq", "-ne", "-lt", "-le", "-gt", "-ge", "-nt", "-ot", "-ef"]

/-- Alternatives in a test. -/
def readAnyOf (read : Reader) (c : Cursor) : Reading := do
  let d := (← read .allOf c).skipLines
  match d.skip? "||" with
  | some e => read .anyOf e
  | none => return d

/-- Parts of a test that have to hold together. -/
def readAllOf (read : Reader) (c : Cursor) : Reading := do
  let d := (← read .term c).skipLines
  match d.skip? "&&" with
  | some e => read .allOf e
  | none => return d

/-- The second word of a test that takes two. -/
def readOperand (read : Reader) (operator : String) (c : Cursor) : Reading :=
  let c := c.skipBlanks
  if operator == "=~" then
    if c.isAtWord || c.rest.head? == some '(' then read (.pattern true) c
    else .error c.unexpected
  else if !c.isAtWord || (c.keyword? "]]").isSome then .error c.unexpected
  else if operator == "=" || operator == "==" || operator == "!=" then read (.pattern false) c
  else read .word c

/-- A single term of a test. -/
def readTerm (read : Reader) (c : Cursor) : Reading := do
  let c := c.skipLines
  if (c.keyword? "]]").isSome then throw c.unexpected
  match c.skip? "(", c.keyword? "!" with
  | some d, _ =>
    let e := (← read .anyOf d).skipLines
    match e.skip? ")" with
    | some f => return f
    | none => throw e.unexpected
  | none, some d => read .term d
  | none, none =>
    if !c.isAtWord then throw c.unexpected
    let d ← read .word c
    let e := d.skipBlanks
    if isUnaryTest (c.textTo d) then
      if e.isAtWord && (e.keyword? "]]").isNone then read .word e else throw e.unexpected
    else
      match binaryTests.find? fun op => (e.keyword? op).isSome with
      | some op => readOperand read op (e.advanceBy op.toList.length)
      | none =>
        match e.rest with
        | '<' :: s | '>' :: s =>
          if s.head? == some '(' then throw e.unexpected else readOperand read "<" e.advance
        | _ =>
          if (e.keyword? "]]").isSome || (e.skip? "&&").isSome || (e.skip? "||").isSome ||
              (e.skip? ")").isSome then return e
          else throw e.unexpected

/-- A test, after the two opening brackets. -/
def readTest (read : Reader) (c : Cursor) : Reading := do
  expectWord "]]" (← read .anyOf c).skipLines

/-! ### Commands -/

/-- A group between parentheses, or an expression between double ones. -/
def readParentheses (read : Reader) (c : Cursor) : Reading :=
  let subshell (d : Cursor) : Reading := do
    let e := (← read .list d.advance).skipLines
    match e.skip? ")" with
    | some f => return f
    | none => throw e.unexpected
  match c.skip? "((" with
  | none => subshell c
  | some d => do
    let e ← read (.stretch .parenthesis) d
    match e.skip? ")" with
    | some f => return f
    | none => subshell c

/-- A compound command without its redirections, if one begins here. -/
def readCompound? (read : Reader) (c : Cursor) : Option Reading :=
  if c.rest.head? = some '(' then some (readParentheses read c)
  else
    let forms : List (String × (Cursor → Reading)) := [
      ("\x7b", readUntil read "\x7d"),
      ("if", fun d => do read .branches (← read .list d)),
      ("while", readWhile read),
      ("until", readWhile read),
      ("for", fun d =>
        match d.skipBlanks.skip? "((" with
        | some e => readCounting read e
        | none => readOver read d),
      ("select", readOver read),
      ("case", readCase read),
      ("[[", readTest read)]
    forms.findSome? fun (word, form) => (c.keyword? word).map form

/-- A compound command with its redirections, which has to stand here. -/
def expectCompound (read : Reader) (c : Cursor) : Reading :=
  match readCompound? read c with
  | some compound => do read .redirections (← compound)
  | none => .error c.unexpected

/-- The head of a function that begins with a reserved word, after that word. -/
def readFunctionHead (read : Reader) (c : Cursor) : Reading := do
  let d ← expectAnyWord read c
  let e := d.skipBlanks
  match e.skip? "(" with
  | none => return e
  | some f => return (f.skipBlanks.skip? ")").getD e

/-- A command that runs beside the others, after its first word. -/
def readCoprocess (read : Reader) (c : Cursor) : Reading := do
  let c := c.skipBlanks
  match readCompound? read c with
  | some compound => read .redirections (← compound)
  | none =>
    if c.isAtAny misplacedWords then throw c.unexpected
    let d := (← expectAnyWord read c).skipBlanks
    if d.isAtAny misplacedWords then throw d.unexpected
    match readCompound? read d with
    | some compound => read .redirections (← compound)
    | none => read (.elements true false) c

/-- A command. -/
def readCommand (read : Reader) (c : Cursor) : Reading := do
  let c := c.skipBlanks
  match readCompound? read c with
  | some compound => read .redirections (← compound)
  | none =>
    match c.keyword? "function", c.keyword? "coproc" with
    | some d, _ => expectCompound read (← readFunctionHead read d).skipLines
    | _, some d => readCoprocess read d
    | none, none =>
      if c.isAtAny misplacedWords || !c.isAtCommand then throw c.unexpected
      if c.redirection?.isSome then read (.elements true false) c
      else
        let d ← readAssignment read c
        match d.skipBlanks.skip? "(", assigned? (c.textTo d) with
        | some e, none =>
          let e := e.skipBlanks
          match e.skip? ")" with
          | some f => expectCompound read f.skipLines
          | none => throw e.unexpected
        | _, _ => read (.elements true false) c

/-! ### Pipelines and lists -/

/-- Whether a pipeline that consists of nothing but its signs may end here. -/
def isPipelineEnd (c : Cursor) : Bool :=
  c.isAtEnd || c.rest.head? == some '\n' || (c.rest.head? == some ';' && !c.isAtCaseEnd)

/-- A pipeline: signs that invert or time it, and commands. -/
def readPipeline (read : Reader) (c : Cursor) : Reading := do
  let c := c.skipBlanks
  match (c.keyword? "!").or (c.keyword? "time") with
  | none => read .pipes (← read .command c)
  | some d =>
    let d := d.skipBlanks
    let d := ((d.keyword? "-p").getD d).skipBlanks
    if isPipelineEnd d then return d else read .pipeline d

/-- The rest of a pipeline. -/
def readPipes (read : Reader) (c : Cursor) : Reading := do
  let d := c.skipBlanks
  if (d.skip? "||").isSome then return d
  match (d.skip? "|&").or (d.skip? "|") with
  | none => return d
  | some e => read .pipes (← read .command e.skipLines)

/-- Pipelines joined by conditions. -/
def readConditional (read : Reader) (c : Cursor) : Reading := do
  let d := (← read .pipeline c).skipBlanks
  match (d.skip? "&&").or (d.skip? "||") with
  | none => return d
  | some e => read .conditional e.skipLines

/-- One command or more. -/
def readList (read : Reader) (c : Cursor) : Reading := do
  let c := c.skipLines
  if !c.isAtCommand then throw c.unexpected
  read .listRest (← read .conditional c)

/-- The rest of a list. -/
def readListRest (read : Reader) (c : Cursor) : Reading := do
  let d := c.skipBlanks
  let more (e : Cursor) : Reading := do
    let f := e.skipLines
    if f.isAtCommand then read .listRest (← read .conditional f) else return f
  if d.isAtCaseEnd || (d.skip? "&&").isSome then return d
  match d.rest with
  | ';' :: _ | '&' :: _ => more d.advance
  | '\n' :: _ => more d
  | _ => return d

end GnuLint.Shell
