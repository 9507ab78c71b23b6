import GnuLint.CommandLine.RuleCommands
import GnuLint.Finding.File
import GnuLint.Grep.Invocation
import GnuLint.Report.Json
import GnuLint.Report.Listing
import GnuLint.Report.Summary

/-!
# Checking scripts

A check scans all scripts, sets aside those that cannot be read, and then either reports
the findings or fixes the scripts. Findings below the least severity do not count.

The exit code of a report is 1 if a script cannot be read or some finding is an error, 2 if
there are other findings, and 0 if there are none. The exit code of a fix run is 0 only if
every script was read and nothing is left to fix.
-/

namespace GnuLint.CommandLine

/-! ### Before scanning -/

/-- Whether the output of several scripts is something that is not a directory. -/
def CheckRequest.isMisdirected (r : CheckRequest) (disk : Disk) : Bool :=
  match r.destination with
  | some (.output path _) =>
    1 < r.files.length && disk.hasPath path && !disk.isDirectory path
  | _ => false

/-- **What makes a check fail before anything is scanned**, if anything does. -/
def CheckRequest.obstacle? (r : CheckRequest) (disk : Disk) : Option Failure :=
  if r.files.isEmpty then some ⟨"no files specified. Use 'shport --help' for usage", []⟩
  else if r.isMisdirected disk then
    some ⟨"output path must be a directory when processing multiple files", []⟩
  else
    (r.files.find? fun file => !disk.hasPath file).map fun file =>
      ⟨"file not found: " ++ file.toString, []⟩

/-! ### Scanning -/

/-- What scanning several scripts gave. -/
structure Scans where
  /-- The scripts that were read, with the findings that count. -/
  findings : List (Path × List Finding)
  /-- The failures to read the others. -/
  failures : List (ScanError FileError)
  deriving DecidableEq

/-- What scanning some scripts gives. -/
def Scans.ofFiles (rules : RuleSet) (disk : Disk) (least : Severity) : List Path → Scans
  | [] => ⟨[], []⟩
  | file :: files =>
    let rest := ofFiles rules disk least files
    match rules.scanFile disk file with
    | .ok fs => { rest with findings := (file, Findings.atLeast least fs) :: rest.findings }
    | .error e => { rest with failures := e :: rest.failures }

/-- The findings in all scripts. -/
def Scans.all (s : Scans) : List Finding := s.findings.flatMap Prod.snd

/-- The lines that tell the failures to read scripts. -/
def Scans.errorLines (s : Scans) : Text :=
  s.failures.flatMap fun e => Execution.failureLines "error" e.failure

/-! ### Reporting -/

/-- The report on some findings. -/
def ReportFormat.render (format : ReportFormat) (fs : List Finding) : Except Fault Text :=
  match format with
  | json => .ok (Report.json fs)
  | listing => Report.listing Registry.builtin false fs

/-- The exit code of a report. -/
def Scans.exitCode (s : Scans) : Nat :=
  if !s.failures.isEmpty || Findings.hasErrors s.all then 1
  else if s.all.isEmpty then 0
  else 2

/-- **The run that reports findings.** -/
def report (format : ReportFormat) (scans : Scans) (disk : Disk) : Except Fault Execution := do
  return ⟨scans.exitCode, ← format.render scans.all, scans.errorLines, disk⟩

/-! ### Fixing -/

/-- The preview of a fixed script. -/
def preview (content : Text) : Text :=
  let newline := if content.getLast? = some '\n' then [] else ['\n']
  Execution.line "--- Preview of changes ---" ++ content ++ newline ++
    Execution.line "--- End preview ---"

end GnuLint.CommandLine

namespace GnuLint.Step

open CommandLine

/-- What is printed as output about one script of a batch. -/
def output : Step → Text
  | unreadable _ | rejected _ _ | unwritten _ _ _ => []
  | previewed output r =>
    Execution.line (r.summary r.path output true) ++
      (if r.isModified then preview r.content else [])
  | unchanged output r | written output r => Execution.line (r.summary r.path output false)

/-- What is printed as errors about one script of a batch. -/
def errors : Step → Text
  | unreadable e => Execution.failureLines "error" e.failure
  | rejected r rejection =>
    Execution.line ("warning: fix for " ++ r.path.toString ++
      " would create invalid syntax: " ++ rejection.message) ++
    Execution.line "  skipping write for this file to preserve the original"
  | unwritten output _ cause =>
    Execution.failureLines "error"
      (cause.failure.within ("Failed to write " ++ output.toString))
  | _ => []

end GnuLint.Step

namespace GnuLint.CommandLine

/-- The line with the sums of a batch. -/
def totalLine (steps : List Step) : Text :=
  Execution.line ("\nTotal: " ++ toString (Step.fixedTotal steps) ++ " fixes applied, " ++
    toString (Step.unresolvedTotal steps) ++ " unfixable issues")

/-- The exit code of a fix run, given whether some script could not be scanned. -/
def fixExitCode (scanFailed : Bool) (steps : List Step) : Nat :=
  if scanFailed || steps.any (fun s => s.isUnreadable || s.isUnwritten) ||
      0 < Step.unresolvedTotal steps then 1
  else 0

/-- **The run that fixes scripts.** It ends without sums if a script cannot be written. -/
def fix (batch : Batch) (scans : Scans) (disk : Disk) : Except Fault Execution := do
  let (steps, disk) ← batch.run disk scans.findings
  let total := if steps.any Step.isUnwritten then [] else totalLine steps
  return {
    exitCode := fixExitCode (!scans.failures.isEmpty) steps
    output := steps.flatMap Step.output ++ total
    errors := scans.errorLines ++ steps.flatMap Step.errors
    disk }

/-! ### All of it -/

/-- How a check fixes scripts that go to a destination, if a validator judges them. -/
def CheckRequest.batchJudgedBy (r : CheckRequest) (validator : Validator)
    (destination : Destination) : Batch where
  registry := Registry.builtin
  validator
  destination
  dryRun := r.dryRun

/-- How a check fixes scripts that go to a destination. -/
def CheckRequest.batch (r : CheckRequest) (env : Environment) (disk : Disk)
    (destination : Destination) : Batch :=
  r.batchJudgedBy (env.validator disk r.judge) destination

/-- The run that checks scripts with some rules, if a validator judges what is fixed. -/
def checkWith (validator : Validator) (rules : RuleSet) (r : CheckRequest) (disk : Disk) :
    Except Fault Execution :=
  let scans := Scans.ofFiles rules disk r.least r.files
  match r.destination with
  | none => report r.format scans disk
  | some destination => fix (r.batchJudgedBy validator destination) scans disk

/-- The run that checks scripts, if a validator judges what is fixed. -/
def checkJudgedBy (validator : Validator) (env : Environment) (r : CheckRequest) (disk : Disk) :
    Except Fault Execution :=
  match r.obstacle? disk with
  | some f => .ok (.ofFailure disk f)
  | none =>
    match env.loadRules disk r.rules with
    | .error f => .ok (.ofFailure disk f)
    | .ok (rules, _) => checkWith validator rules r disk

/-- **The run that checks scripts.** What is fixed is judged by the judge that is asked for. -/
def check (env : Environment) (r : CheckRequest) (disk : Disk) : Except Fault Execution :=
  checkJudgedBy (env.validator disk r.judge) env r disk

end GnuLint.CommandLine
