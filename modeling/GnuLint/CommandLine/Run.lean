import GnuLint.CommandLine.Check
import GnuLint.CommandLine.Words

/-!
# Running the program

A run reads the command line and does what is asked for. A command line with something
wrong in it ends the run with exit code 2, and nothing is done.
-/

namespace GnuLint.CommandLine

/-- What the program tells as its version. -/
def versionText : Text := "shport 0.1.0\n".toList

/-- How the program is used. -/
def usageText : Text :=
  ("Usage: shport [OPTIONS] [FILES]...\n" ++
    "       shport rules [OPTIONS] list|validate\n").toList

/-- The explanation of the program. -/
def helpText : Text :=
  "Check shell scripts for GNU/Linux-only constructs that break on macOS\n\n".toList ++
    usageText ++
    ("\n" ++
      "  -w, --write             Fix and overwrite files in place\n" ++
      "  -o, --output PATH       Fix and write to PATH (a file for one input, a directory\n" ++
      "                          for several)\n" ++
      "      --dry-run           Preview fixes without writing (with -w or -o)\n" ++
      "  -s, --severity NAME     Minimum severity to report: error, warning (default), info\n" ++
      "      --format NAME       Output format: text (default), json\n" ++
      "  -r, --rules FILE        Rules file merged over the builtin catalog\n" ++
      "      --no-user-rules     Ignore the per-user rules file\n" ++
      "      --validator NAME    How rewritten scripts are checked before writing:\n" ++
      "                          bash (default), structural\n" ++
      "  -v, --verbose           Increase log verbosity\n" ++
      "  -h, --help              Print help\n" ++
      "  -V, --version           Print version\n").toList

/-- The run that a wrong command line ends. -/
def Execution.ofUsageError (disk : Disk) (e : UsageError) : Execution :=
  ⟨2, [], ("error: " ++ e.message ++ "\n\n").toList ++ usageText, disk⟩

/-- The run that does what is asked for. -/
def perform (env : Environment) (disk : Disk) : Request → Except Fault Execution
  | .help => .ok ⟨0, helpText, [], disk⟩
  | .version => .ok ⟨0, versionText, [], disk⟩
  | .check r => check env r disk
  | .listRules s => .ok (listRules env disk s)
  | .validateRules s => .ok (validateRules env disk s)

/-- **The run of a command line.** -/
def run (env : Environment) (disk : Disk) (words : List Text) : Except Fault Execution :=
  match Request.ofWords words with
  | .error e => .ok (.ofUsageError disk e)
  | .ok r => perform env disk r

end GnuLint.CommandLine
