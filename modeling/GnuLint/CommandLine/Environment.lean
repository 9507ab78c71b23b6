import GnuLint.CommandLine.Request
import GnuLint.Rule.Override
import GnuLint.Shell.Validator

/-!
# What the program finds around it

Besides its command line and the disk, the program looks at some variables – where the
user keeps settings, whether the user's own rules are to be ignored, where programs are –
and at what those programs do.
-/

namespace GnuLint.CommandLine

/-- What the program finds around it. -/
structure Environment where
  /-- The variables that are set, with their values. -/
  bindings : List (String × String)
  /-- What can be started. -/
  programs : Executable.Table

namespace Environment

/-- The value of a variable, if it is set. -/
def value? (env : Environment) (name : String) : Option String := env.bindings.lookup name

/-- The home directory of the user. -/
def home? (env : Environment) : Option Path :=
  ((env.value? "HOME").filter (· ≠ "")).map Path.ofString

/-- The directory in which the user keeps settings. -/
def settings? (env : Environment) : Option Path :=
  (((env.value? "XDG_CONFIG_HOME").map Path.ofString).filter Path.isAbsolute).or
    (env.home?.map (·.join (Path.ofString ".config")))

/-- **The user's own file with rules**, whether it is there or not. -/
def userRules? (env : Environment) : Option Path :=
  env.settings?.map fun settings =>
    (settings.join (Path.ofString "shport")).join (Path.ofString "rules.toml")

/-- Whether a variable disables the user's own rules. -/
def disablesUserRules (env : Environment) : Bool :=
  (env.value? "SHPORT_NO_USER_RULES").any isTruthy

/-- **The file that overrides the catalogue.** -/
def override? (env : Environment) (disk : Disk) (s : RuleSelection) : Option Path :=
  chooseOverride disk env.userRules? (s.ignoresUserRules || env.disablesUserRules) s.requested

/-- The directories that are searched for programs. -/
def searchPath? (env : Environment) : Option Text := (env.value? "PATH").map String.toList

/-- The judgement of the program that a command starts. -/
def program (env : Environment) (disk : Disk) (command : Path) : Validator :=
  Validator.byProgram command
    (Executable.start env.programs disk env.searchPath? command)

/-- **The judgement of a judge.** The shell is the first one on the search path. -/
def validator (env : Environment) (disk : Disk) : Judge → Validator
  | .syntactic => Validator.structural
  | .shell =>
    let bash := Path.ofString "bash"
    env.program disk ((Executable.find? disk env.searchPath? bash).getD bash)

end Environment

end GnuLint.CommandLine
