import GnuLint.CommandLine.Environment
import GnuLint.CommandLine.Execution

/-!
# Commands about rules

The rules in use are listed in a table, with where they come from; or they are only
loaded, to see whether they can be.
-/

namespace GnuLint.CommandLine

namespace Environment

/-- The rules in use, and the file that overrides the catalogue. -/
def loadRules (env : Environment) (disk : Disk) (s : RuleSelection) :
    Except Failure (RuleSet × Option Path) :=
  let override := env.override? disk s
  match RuleSet.load disk override with
  | .ok rules => .ok (rules, override)
  | .error e => .error (e.failure.within "Failed to load rules")

end Environment

/-- A row of the table of rules. -/
def tableRow (id severity strategy name : String) : Text :=
  "  ".toList ++ Text.padRight 28 id.toList ++ [' '] ++ Text.padRight 8 severity.toList ++
    [' '] ++ Text.padRight 10 strategy.toList ++ [' '] ++ name.toList ++ ['\n']

/-- The table of some rules. -/
def table (rules : RuleSet) : Text :=
  Execution.line ("Rules (" ++ toString rules.size ++ "):\n") ++
    tableRow "ID" "SEVERITY" "FIX" "NAME" ++
    rules.rules.flatMap fun r => tableRow r.id r.severity.name r.strategy.name r.name

/-- The lines that say where the rules in use come from. -/
def originLines (env : Environment) (disk : Disk) (override : Option Path) : Text :=
  (match override with
    | some path => Execution.line ("Override: " ++ path.toString)
    | none => Execution.line "Override: none (builtin rules only)") ++
  (match env.userRules? with
    | none => []
    | some path =>
      Execution.line ("User rules path: " ++ path.toString) ++
        Execution.line (if disk.hasPath path then "  (exists)" else "  (not found)"))

/-- **The run that lists the rules in use.** -/
def listRules (env : Environment) (disk : Disk) (s : RuleSelection) : Execution :=
  match env.loadRules disk s with
  | .error f => .ofFailure disk f
  | .ok (rules, override) =>
    ⟨0, table rules ++ ['\n'] ++ originLines env disk override, [], disk⟩

/-- **The run that only loads the rules.** -/
def validateRules (env : Environment) (disk : Disk) (s : RuleSelection) : Execution :=
  match env.loadRules disk s with
  | .error f => ⟨1, [], Execution.failureLines "Rules error" f, disk⟩
  | .ok (rules, override) =>
    let origin := override.elim [] fun path =>
      Execution.line ("  merged from " ++ path.toString)
    ⟨0, Execution.line ("All rules are valid: " ++ toString rules.size ++ " rules") ++ origin,
      [], disk⟩

end GnuLint.CommandLine
