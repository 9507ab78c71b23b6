import GnuLint.Files.Path
import GnuLint.Rule.RuleSet
import GnuLint.Text.Lines

/-!
# Findings

A finding is one rule firing on one line of one file. Lines and columns are counted from
one, columns in bytes; the offset of a finding is the number of bytes before it on its
line.
-/

namespace GnuLint

/-- One rule firing on one line. -/
structure Finding where
  /-- The rule. -/
  rule : Rule
  /-- The file. -/
  file : Path
  /-- The number of the line, from one on. -/
  line : Nat
  /-- The column of the first byte, from one on. -/
  column : Nat
  /-- The line, without its terminator. -/
  content : Text
  /-- The text that was found. -/
  matched : Text
  deriving DecidableEq

namespace Finding

/-- **The number of bytes before a finding** on its line. There is no column zero; a
finding that claims to be there lies behind every line. -/
def offset (f : Finding) : Nat := if f.column = 0 then 18446744073709551615 else f.column - 1

/-- The severity of a finding is that of its rule. -/
def severity (f : Finding) : Severity := f.rule.severity

end Finding

/-! ### Sums -/

/-- How many findings there are of each severity. -/
structure SeverityCounts where
  /-- Errors. -/
  errors : Nat
  /-- Warnings. -/
  warnings : Nat
  /-- Findings for information. -/
  infos : Nat
  deriving DecidableEq, Repr

namespace Findings

/-- The findings from a severity on. -/
def atLeast (least : Severity) (fs : List Finding) : List Finding :=
  fs.filter fun f => least ≤ f.severity

/-- The number of findings of a severity. -/
def countOf (severity : Severity) (fs : List Finding) : Nat :=
  fs.countP fun f => f.severity = severity

/-- **How many findings there are** of each severity. -/
def counts (fs : List Finding) : SeverityCounts where
  errors := countOf .error fs
  warnings := countOf .warning fs
  infos := countOf .info fs

/-- Whether some finding is an error. -/
def hasErrors (fs : List Finding) : Bool := fs.any fun f => f.severity = .error

/-! ### Groups -/

/-- Groups of findings with one more finding: in the first group of its file, or in a new
one at the end. -/
def addToGroups (f : Finding) : List (Path × List Finding) → List (Path × List Finding)
  | [] => [(f.file, [f])]
  | (file, group) :: groups =>
    if file.same f.file then (file, group ++ [f]) :: groups
    else (file, group) :: addToGroups f groups

/-- **The findings grouped by file**, files in the order and in the spelling in which they
first come up. -/
def byFile (fs : List Finding) : List (Path × List Finding) :=
  fs.foldl (fun groups f => addToGroups f groups) []

end Findings

end GnuLint
