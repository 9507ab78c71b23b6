import GnuLint.Fix.Attempt
import GnuLint.Report.Span

/-!
# Reports for people

A report for people lists the findings by file. Each finding shows where it is, how much
it matters, which rule found it, the line with what was found in it, and what can be done:
a fix if it would be applied, a suggestion and a reason if not. The last line sums up.
-/

namespace GnuLint.Report

/-- The style of a severity in a list. -/
def severityStyle : Severity → Style
  | .error => .boldRed
  | .warning => .boldYellow
  | .info => .boldBlue

/-- The name of a severity in capitals. -/
def capitals (s : Severity) : Text := s.name.toList.map Char.toUpper

/-- The line of a finding, with what was found in red, as long as it is there. -/
def highlight (f : Finding) : StyledLine :=
  let parts := do
    let (before, tail) ← Text.cutAt? f.content f.offset
    let (found, after) ← Text.cutAt? tail (Text.byteLength f.matched)
    return (before, found, after)
  match parts with
  | some (before, found, after) =>
    if f.matched.isEmpty then [.plain f.content]
    else [.plain before, ⟨.red, found⟩, .plain after]
  | none => [.plain f.content]

/-- The lines of a finding, given whether it would be fixed. -/
def findingLines (f : Finding) (fixable : Bool) : List StyledLine :=
  let place := "  " ++ toString f.line ++ ":" ++ toString f.column ++ ": "
  let label := if fixable then "Fix: " else "Suggest: "
  let fix := f.rule.template.toList.map fun template =>
    [.ofString "    ", ⟨.dimmed, "└─ ".toList⟩, .ofString (label ++ template)]
  let reason := f.rule.rationale.toList.map fun rationale =>
    [.ofString "       Why: ", ⟨.yellow, rationale.toList⟩]
  [[.ofString place, ⟨severityStyle f.severity, capitals f.severity⟩,
      .ofString (" [" ++ f.rule.id ++ "]")],
    [.ofString ("    " ++ f.rule.name)],
    .ofString "    " :: ⟨.dimmed, "│ ".toList⟩ :: highlight f] ++
  fix ++ (if fixable then [] else reason)

/-- The lines of a group of findings in one file. -/
def groupLines (registry : Registry) (file : Path) (fs : List Finding) :
    Except Fault (List StyledLine) := do
  let lines ← fs.mapM fun f => (f.isFixable registry).map (findingLines f)
  return [] :: [⟨.bold, file.spelling⟩] :: lines.flatten

/-- The sums of the severities that occur, the gravest first. -/
def sums (counts : SeverityCounts) : List Span :=
  [(counts.errors, " error(s)", Style.red), (counts.warnings, " warning(s)", Style.yellow),
    (counts.infos, " info(s)", Style.blue)].filterMap fun (n, words, style) =>
      if n = 0 then none else some ⟨style, (toString n ++ words).toList⟩

/-- The last line of a report. -/
def sumLine (fs : List Finding) (files : Nat) : StyledLine :=
  .ofString "Found " :: (sums (Findings.counts fs)).intersperse (.ofString ", ") ++
    [.ofString (" in " ++ toString files ++ " file(s)")]

/-- The lines of the report for people. -/
def lines (registry : Registry) (fs : List Finding) : Except Fault (List StyledLine) := do
  if fs.isEmpty then return [[⟨.green, "No issues found.".toList⟩]]
  else
    let groups := Findings.byFile fs
    let lines ← groups.mapM fun (file, group) => groupLines registry file group
    return lines.flatten ++ [[], sumLine fs groups.length]

/-- **The report for people**, with or without colour. -/
def listing (registry : Registry) (color : Bool) (fs : List Finding) : Except Fault Text :=
  (lines registry fs).map (renderLines color)

end GnuLint.Report
