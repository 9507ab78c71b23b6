import GnuLint.Fix.Batch
import GnuLint.Rule.Severity

/-!
# Requests

What the program can be asked to do: to check scripts, and perhaps to fix them, or to say
something about the rules in use.
-/

namespace GnuLint.CommandLine

/-- The form of a report. -/
inductive ReportFormat
  /-- For people. -/
  | listing
  /-- For programs. -/
  | json
  deriving DecidableEq, Repr

namespace ReportFormat

/-- The name of a form. -/
def name : ReportFormat → String
  | listing => "text"
  | json => "json"

/-- The form of a name, if it is one. -/
def ofName? (s : String) : Option ReportFormat := [listing, json].find? (·.name == s)

end ReportFormat

/-- Who judges fixed scripts. -/
inductive Judge
  /-- A shell that is found on the search path. -/
  | shell
  /-- The syntax, without another program. -/
  | syntactic
  deriving DecidableEq, Repr

namespace Judge

/-- The name of a judge. -/
def name : Judge → String
  | shell => "bash"
  | syntactic => "structural"

/-- The judge of a name, if it is one. -/
def ofName? (s : String) : Option Judge := [shell, syntactic].find? (·.name == s)

end Judge

/-- Which rules are to override the catalogue. -/
structure RuleSelection where
  /-- The file that is asked for. -/
  requested : Option Path
  /-- Whether the own rules of the user are ignored. -/
  ignoresUserRules : Bool
  deriving DecidableEq, Repr

/-- How scripts are to be checked. -/
structure CheckRequest where
  /-- The scripts. -/
  files : List Path
  /-- Where fixed scripts go, if scripts are to be fixed. -/
  destination : Option Destination
  /-- Whether fixed scripts are shown and not written. -/
  dryRun : Bool
  /-- The least severity of a finding that counts. -/
  least : Severity
  /-- The form of the report. -/
  format : ReportFormat
  /-- The rules. -/
  rules : RuleSelection
  /-- The judge of fixed scripts. -/
  judge : Judge
  deriving DecidableEq, Repr

/-- **What the program is asked to do.** -/
inductive Request
  /-- To explain itself. -/
  | help
  /-- To tell its version. -/
  | version
  /-- To check scripts. -/
  | check (r : CheckRequest)
  /-- To list the rules in use. -/
  | listRules (s : RuleSelection)
  /-- To load the rules and do nothing else. -/
  | validateRules (s : RuleSelection)
  deriving DecidableEq, Repr

end GnuLint.CommandLine
