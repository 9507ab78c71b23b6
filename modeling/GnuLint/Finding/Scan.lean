import GnuLint.Finding.Basic
import GnuLint.Script.Region
import GnuLint.Text.Utf8

/-!
# Scanning

Scanning applies rules to a script, line by line. A rule takes part if it applies to the
first line of the script. Excluded and blank lines are passed over; comments are shown
only to rules that target them. On each line left, each rule gives at most one finding,
the leftmost occurrence of its pattern, unless its negative pattern occurs on the line
too. Findings come in the order of lines, and on a line in the order of rules.

A script is given as text, as lines that may fail to be read, or as bytes; the first line
that cannot be read ends the scan and discards what was found before
(`GnuLint.RuleSet.scanReads`).
-/

namespace GnuLint

/-! ### One line -/

/-- The finding of a rule on a line, wherever the line may stand. -/
def Rule.findingOn? (r : Rule) (file : Path) (number : Nat) (line : Text) : Option Finding :=
  match r.pattern.find? line with
  | none => none
  | some occurrence =>
    if r.negativePattern.any (·.isMatch line) then none
    else some {
      rule := r
      file
      line := number
      column := Text.byteLength occurrence.before + 1
      content := line
      matched := occurrence.matched }

/-- Whether a rule looks at a line: a comment is shown only to rules that target them. -/
def Rule.looksAt (r : Rule) (line : Text) : Bool := !isComment line || r.targetsComments

/-- The findings on a line that is not excluded. -/
def findingsOn (rules : List Rule) (file : Path) (number : Nat) (line : Text) : List Finding :=
  if Text.isAllBlank line then []
  else rules.filterMap fun r =>
    if r.looksAt line then r.findingOn? file number line else none

/-! ### All lines -/

/-- The findings on the lines from a number on; `rules` are those that take part. -/
def findingsFrom (rules : List Rule) (file : Path) :
    (number : Nat) → Region → List Text → List Finding
  | _, _, [] => []
  | number, region, line :: lines =>
    (if region.excludes line then [] else findingsOn rules file number line) ++
      findingsFrom rules file (number + 1) (region.next line) lines

namespace RuleSet

/-- The rules that take part in scanning some lines. -/
def active (s : RuleSet) (lines : List Text) : List Rule :=
  s.rules.filter fun r => r.isActiveFor lines.head?

/-- **The findings on some lines.** -/
def scanLines (s : RuleSet) (file : Path) (lines : List Text) : List Finding :=
  findingsFrom (s.active lines) file 1 .outside lines

/-- **The findings in a text.** -/
def scanText (s : RuleSet) (file : Path) (text : Text) : List Finding :=
  s.scanLines file (Text.lines text)

end RuleSet

/-! ### Lines that may fail to be read -/

/-- A line that could not be read. -/
structure ScanError (ε : Type) where
  /-- The file. -/
  file : Path
  /-- The number of the line; zero if the file could not be opened. -/
  line : Nat
  /-- Why it could not be read. -/
  cause : ε
  deriving DecidableEq, Repr

/-- The words for a line that could not be read. -/
def ScanError.message {ε : Type} (e : ScanError ε) : String :=
  "Failed to read " ++ e.file.toString ++ " (stopped at line " ++ toString e.line ++ ")"

/-- The lines read, from a number on, or the number of the first one that failed. -/
def readAll {ε : Type} (file : Path) :
    (number : Nat) → List (Except ε Text) → Except (ScanError ε) (List Text)
  | _, [] => .ok []
  | number, .error cause :: _ => .error ⟨file, number, cause⟩
  | number, .ok line :: reads => (readAll file (number + 1) reads).map (line :: ·)

namespace RuleSet

/-- **The findings on lines that may fail to be read.** -/
def scanReads {ε : Type} (s : RuleSet) (file : Path) (reads : List (Except ε Text)) :
    Except (ScanError ε) (List Finding) :=
  (readAll file 1 reads).map (s.scanLines file)

/-- **The findings in some bytes**, which are decoded line by line; `cause` stands for a
line that is not valid. -/
def scanBytes {ε : Type} (s : RuleSet) (file : Path) (cause : ε) (bytes : Bytes) :
    Except (ScanError ε) (List Finding) :=
  s.scanReads file <| (Bytes.pieces bytes).map fun piece =>
    match Bytes.toText? piece with
    | some text => .ok (Text.body text)
    | none => .error cause

end RuleSet

end GnuLint
