import GnuLint.Files.Disk
import GnuLint.Finding.Scan
import GnuLint.Fix.Script

/-!
# Fixing files

A file is read as a whole and its findings are fixed; the result is written on request,
unless the validator rejected it. Directories that are missing above the file are
created.
-/

namespace GnuLint

/-- The text of a file with its findings fixed, or why it cannot be read. -/
def fixFile (registry : Registry) (validator : Validator) (disk : Disk) (path : Path)
    (fs : List Finding) : Except Fault (Except (ScanError FileError) FixResult) :=
  match disk.readText path with
  | .error cause => .ok (.error ⟨path, 0, cause⟩)
  | .ok text => (fixText registry validator path text fs).map .ok

/-- Why a result is not written. -/
inductive SaveError
  /-- The validator rejected the fixed file. -/
  | refused (file : Path)
  /-- The output cannot be written. -/
  | unwritable (output : Path) (cause : FileError)
  deriving DecidableEq, Repr

namespace SaveError

/-- The words for a cause. -/
def message : SaveError → String
  | refused file =>
    "Refusing to write " ++ file.toString ++ ": rewritten script failed validation"
  | unwritable output _ => "Failed to write " ++ output.toString

/-- The words for what lies behind a cause. -/
def causes : SaveError → List String
  | refused _ => []
  | unwritable _ cause => [cause.message]

end SaveError

/-- The disk after creating the directory that a path lies in, if it names one. -/
def Disk.createParent (disk : Disk) (p : Path) : Disk × Except FileError Unit :=
  match p.parent? with
  | none => (disk, .ok ())
  | some parent =>
    if parent.spelling.isEmpty then (disk, .ok ()) else disk.createDirectories parent

/-- **The disk after trying to write a result** to a path. -/
def FixResult.save (r : FixResult) (disk : Disk) (output : Path) :
    Disk × Except SaveError Unit :=
  if r.isRejected then (disk, .error (.refused r.path))
  else
    match disk.createParent output with
    | (disk, .error cause) => (disk, .error (.unwritable output cause))
    | (disk, .ok ()) =>
      match disk.write output (Bytes.ofText r.content) with
      | .error cause => (disk, .error (.unwritable output cause))
      | .ok disk => (disk, .ok ())

end GnuLint
