import GnuLint.CommandLine.Run
import GnuLint.CommandLine.Snapshot

/-!
# The program

The program takes a snapshot of the part of the disk that its command line is about, runs
on it, and carries out what has changed. A shell that is found on the search path is taken
to judge scripts by their syntax.
-/

namespace GnuLint.CommandLine

/-- The variables that the program looks at. -/
def variableNames : List String := ["SHPORT_NO_USER_RULES", "XDG_CONFIG_HOME", "HOME", "PATH"]

/-- The variables that are set, with their values. -/
def readVariables : IO (List (String × String)) := do
  let values ← variableNames.mapM fun name => do return (name, ← IO.getEnv name)
  return values.filterMap fun (name, value) => value.map (name, ·)

/-- The disk with what really is at a location. -/
def lookAt (withContents : Bool) (disk : Disk) (l : Location) : IO Disk := do
  let file := (← IO.currentDir).join l.path.toString
  if (disk.at? l).isSome then return disk
  else if ← file.isDir then return disk.put l .directory
  else if ← file.pathExists then
    let contents ← if withContents then IO.FS.readBinFile file else pure ByteArray.empty
    return disk.put l (.file contents.toList)
  else return disk

/-- The part of the disk that a request is about, and the shells on it. -/
def takeSnapshot (bindings : List (String × String)) (request : Request) :
    IO (Environment × Disk) := do
  let here := Location.ofPath (Path.ofString (← IO.currentDir).toString)
  let env : Environment := ⟨bindings, []⟩
  let bare : Disk := ⟨[], here⟩
  let disk ← (bare.locationsOf (request.paths env)).foldlM (lookAt true) bare
  let disk ← (bare.locationsOf env.shells).foldlM (lookAt false) disk
  let shells := (env.shells.filter disk.isFile).filterMap fun p => (disk.locate p).toOption
  return (⟨bindings, shells.map fun l => (l, .checks)⟩, disk)

/-- Carries out a change. -/
def carryOut (change : Location × Node) : IO Unit := do
  let file := (← IO.currentDir).join change.1.path.toString
  match change.2 with
  | .directory => IO.FS.createDirAll file
  | .file contents => IO.FS.writeBinFile file ⟨contents.toArray⟩

/-- Prints what a run prints, carries out what it changes, and gives its exit code. -/
def finish (before : Disk) (e : Execution) : IO UInt32 := do
  (e.disk.changesSince before).forM carryOut
  (← IO.getStdout).putStr (String.ofList e.output)
  (← IO.getStderr).putStr (String.ofList e.errors)
  return UInt32.ofNat e.exitCode

/-- Runs a command line. -/
def runWords (words : List Text) : IO UInt32 := do
  match Request.ofWords words with
  | .error e => finish ⟨[], []⟩ (.ofUsageError ⟨[], []⟩ e)
  | .ok request =>
    let (env, disk) ← takeSnapshot (← readVariables) request
    match perform env disk request with
    | .ok e => finish disk e
    | .error .offsetPastEnd =>
      (← IO.getStderr).putStrLn "error: a finding lies past the end of its line"
      return 101

end GnuLint.CommandLine

/-- The program. -/
def main (args : List String) : IO UInt32 :=
  GnuLint.CommandLine.runWords (args.map String.toList)
