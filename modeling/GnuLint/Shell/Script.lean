import GnuLint.Shell.Command

/-!
# Scripts

A script is well formed if it reads as commands from its first character to its last
(`GnuLint.Shell.check`). What is read inside what is bounded by a count that grows with
the script, so that reading always ends.
-/

namespace GnuLint.Shell

/-- One goal, given how to read those inside it. -/
def readGoal (read : Reader) : Reader
  | .stretch s => readStretch read s
  | .word => readWord read
  | .pattern regex => readPattern read regex
  | .items => readItems read
  | .substitution => readSubstitution read
  | .elements assigns lists => readElements read assigns lists
  | .redirections => readRedirections read
  | .words => readWords read
  | .command => readCommand read
  | .pipeline => readPipeline read
  | .pipes => readPipes read
  | .conditional => readConditional read
  | .list => readList read
  | .listRest => readListRest read
  | .branches => readBranches read
  | .cases => readCases read
  | .patterns => readPatterns read
  | .anyOf => readAnyOf read
  | .allOf => readAllOf read
  | .term => readTerm read

/-- A goal, with goals inside it nested up to a bound. -/
def parse : Nat → Reader
  | 0, _, c => .error c.unexpected
  | n + 1, goal, c => readGoal (parse n) goal c

/-- How deep goals are nested in a script of some length. -/
def depthFor (length : Nat) : Nat := 16 * (length + 4)

/-- **Whether a script is well formed**, or what stands where it must not. -/
def check (script : Text) : Except SyntaxError Unit := do
  let read := parse (depthFor script.length)
  let c := (Cursor.ofText script).skipLines
  if c.isAtEnd then return ()
  let d := (← read .list c).skipLines
  if d.isAtEnd then return () else throw d.unexpected

/-- The words of a message about a script. -/
def SyntaxError.message : SyntaxError → String
  | unexpected line token =>
    let words := closingWords.dropLast ++ [";;", ";&", ";;&"]
    let kind := if words.elem (String.ofList token) then "unexpected" else "syntax error near"
    "line " ++ toString line ++ ": " ++ kind ++ " `" ++ String.ofList token ++ "`"
  | unfinished line => "line " ++ toString line ++ ": syntax error near ``"

end GnuLint.Shell
