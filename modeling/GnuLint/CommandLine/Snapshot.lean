import GnuLint.CommandLine.Environment

/-!
# Snapshots of a disk

A run works on a disk as a value. What it may look at is known from the request: the
scripts, their outputs, the files with rules, and the places where a shell may be. A
snapshot of these locations and those above them is enough for the run, and the changes
between two snapshots are all that has to be carried out.
-/

namespace GnuLint

namespace Location

/-- A location and all those above it, except for the root. -/
def lineage : Location → List Location
  | [] => []
  | name :: rest => (name :: rest) :: lineage rest

/-- The absolute path of a location. -/
def path (l : Location) : Path := ⟨'/' :: ['/'].intercalate l.reverse⟩

/-- The location of an absolute path without dots in it. -/
def ofPath (p : Path) : Location :=
  (p.split.2.filter (!Path.isIdle ·)).reverse

end Location

namespace Disk

/-- The locations that some stretches between slashes can lead through. -/
def passed : Location → List Text → List Location
  | l, [] => l.lineage
  | l, s :: rest =>
    l.lineage ++
      if Path.isIdle s then passed l rest
      else if s = ['.', '.'] then passed l.tail rest
      else passed (s :: l) rest

/-- The locations that some paths can lead through, those farther up first. -/
def locationsOf (d : Disk) (paths : List Path) : List Location :=
  ((paths.flatMap fun p => passed (d.origin p) p.split.2).eraseDups).mergeSort
    fun k l => k.length ≤ l.length

/-- **What is different on a disk** since an earlier one, locations farther up first. -/
def changesSince (d before : Disk) : List (Location × Node) :=
  (d.entries.filter fun (l, node) => before.at? l ≠ some node).mergeSort
    fun a b => a.1.length ≤ b.1.length

end Disk

namespace CommandLine

/-- The places where a shell may be. -/
def Environment.shells (env : Environment) : List Path :=
  (Executable.directories (env.searchPath?.getD Executable.defaultSearchPath)).map
    fun directory => directory.join (Path.ofString "bash")

/-- The files that rules may come from. -/
def RuleSelection.paths (s : RuleSelection) (env : Environment) : List Path :=
  s.requested.toList ++ env.userRules?.toList

/-- The paths that a check may look at or write to, except for those of shells. -/
def CheckRequest.paths (r : CheckRequest) (env : Environment) : List Path :=
  r.files ++ r.rules.paths env ++
    match r.destination with
    | some (.output path _) =>
      path :: r.files.map fun file => path.join ((file.fileName?.map Path.mk).getD file)
    | _ => []

/-- **The paths that a request may look at or write to**, except for those of shells. -/
def Request.paths (env : Environment) : Request → List Path
  | .help | .version => []
  | .check r => r.paths env
  | .listRules s | .validateRules s => s.paths env

end CommandLine

end GnuLint
