import GnuLint.Files.Disk

/-!
# Programs that can be run

A program is found under its path or, by its bare name, in the directories of a search
path. What can be started is known of some locations only; a file at any other location
may not be run, and neither may a directory.

* `GnuLint.Executable.find?` – the path of a command;
* `GnuLint.Executable.start` – what a command does once it is started, or why it cannot be.
-/

namespace GnuLint.Executable

/-- What a program does with a script on its standard input. -/
inductive Behavior
  /-- It reads the script and fails if the script is not well formed. -/
  | checks
  /-- It reads the script and succeeds. -/
  | reads
  /-- It reads nothing, and succeeds or fails. -/
  | ignores (success : Bool)
  deriving DecidableEq, Repr

/-! ### Search paths -/

/-- The directories of a search path, which stand between colons; an empty one is the
working directory. -/
def directories : Text → List Path
  | [] => [⟨[]⟩]
  | ':' :: s => ⟨[]⟩ :: directories s
  | c :: s =>
    match directories s with
    | [] => [⟨[c]⟩]
    | directory :: rest => ⟨c :: directory.spelling⟩ :: rest

/-- **The path of a command**: itself if it begins at the root and leads somewhere, else the
first file of that name in the directories of a search path. -/
def find? (disk : Disk) (searchPath : Option Text) (command : Path) : Option Path :=
  if command.isAbsolute then
    if disk.hasPath command then some command else none
  else
    match searchPath with
    | none => none
    | some s => ((directories s).map fun directory => directory.join command).find? disk.isFile

/-! ### Starting -/

/-- What can be started, by its location. -/
abbrev Table := List (Location × Behavior)

/-- What the program under a path does. -/
def startAt (programs : Table) (disk : Disk) (p : Path) : Except FileError Behavior := do
  match ← disk.find p with
  | .directory => .error .permissionDenied
  | .file _ =>
    match programs.lookup (← disk.locate p) with
    | some behavior => .ok behavior
    | none => .error .permissionDenied

/-- What the first program under some paths does. Without one, that a file may not be run
counts for more than that there is none. -/
def startFirst (programs : Table) (disk : Disk) :
    FileError → List Path → Except FileError Behavior
  | e, [] => .error e
  | e, p :: rest =>
    match startAt programs disk p with
    | .ok behavior => .ok behavior
    | .error cause =>
      startFirst programs disk (if e = .permissionDenied then e else cause) rest

/-- The directories that are searched where there is no search path. -/
def defaultSearchPath : Text := "/bin:/usr/bin".toList

/-- **What a command does**: the program under its path if there is a slash in it, else the
first one of its name in the directories of a search path. -/
def start (programs : Table) (disk : Disk) (searchPath : Option Text) (command : Path) :
    Except FileError Behavior :=
  if command.spelling.isEmpty then .error .notFound
  else if command.spelling.elem '/' then startAt programs disk command
  else
    startFirst programs disk .notFound
      ((directories (searchPath.getD defaultSearchPath)).map fun directory =>
        directory.join command)

end GnuLint.Executable
