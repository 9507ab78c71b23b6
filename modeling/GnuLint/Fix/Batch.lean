import GnuLint.Fix.File

/-!
# Fixing several files

A batch fixes one file after the other. Each file is read from the disk as the files
before left it, and its result is written to its own output, unless the validator rejects
it, the batch is a dry run, or nothing would change. What became of a file is a
`GnuLint.Step`. A result that cannot be written ends the batch, and nothing else does.
-/

namespace GnuLint

/-- Where fixed files go. -/
inductive Destination
  /-- Each file is overwritten. -/
  | inPlace
  /-- The output of a single file, or the directory for the outputs of several. -/
  | output (path : Path) (single : Bool)
  deriving DecidableEq, Repr

/-- The path that the fixed copy of an input goes to. A single file goes into a directory,
too, if one is there. -/
def Destination.pathFor (disk : Disk) (input : Path) : Destination → Path
  | inPlace => input
  | output path single =>
    if single && !disk.isDirectory path then path
    else path.join ((input.fileName?.map Path.mk).getD input)

/-- What became of one file of a batch. -/
inductive Step
  /-- The file cannot be read. -/
  | unreadable (cause : ScanError FileError)
  /-- The validator rejected the fixed file. -/
  | rejected (result : FixResult) (rejection : Rejection)
  /-- The fixed file would have been written. -/
  | previewed (output : Path) (result : FixResult)
  /-- The file is its own output, and nothing was fixed. -/
  | unchanged (output : Path) (result : FixResult)
  /-- The fixed file was written. -/
  | written (output : Path) (result : FixResult)
  /-- The fixed file cannot be written. -/
  | unwritten (output : Path) (result : FixResult) (cause : SaveError)
  deriving DecidableEq, Repr

namespace Step

/-- What fixing the file gave, if the file can be read. -/
def result? : Step → Option FixResult
  | unreadable _ => none
  | rejected r _ | previewed _ r | unchanged _ r | written _ r | unwritten _ r _ => some r

/-- The number of fixes. -/
def fixedCount (s : Step) : Nat := s.result?.elim 0 FixResult.fixedCount

/-- The number of findings that are still there. -/
def unresolvedCount (s : Step) : Nat := s.result?.elim 0 FixResult.unresolvedCount

/-- The number of fixes in several files. -/
def fixedTotal (steps : List Step) : Nat := steps.foldr (fun s n => s.fixedCount + n) 0

/-- The number of findings that are still there in several files. -/
def unresolvedTotal (steps : List Step) : Nat :=
  steps.foldr (fun s n => s.unresolvedCount + n) 0

/-- Whether the file could not be read. -/
def isUnreadable : Step → Bool
  | unreadable _ => true
  | _ => false

/-- Whether the fixed file could not be written. -/
def isUnwritten : Step → Bool
  | unwritten _ _ _ => true
  | _ => false

end Step

/-- How several files are fixed. -/
structure Batch where
  /-- The rewrites. -/
  registry : Registry
  /-- The judge of the fixed files. -/
  validator : Validator
  /-- Where fixed files go. -/
  destination : Destination
  /-- Whether nothing is written. -/
  dryRun : Bool

namespace Batch

/-- **What becomes of one file**, and the disk after it. -/
def step (b : Batch) (disk : Disk) (input : Path) (fs : List Finding) :
    Except Fault (Step × Disk) := do
  let output := b.destination.pathFor disk input
  match ← fixFile b.registry b.validator disk input fs with
  | .error cause => return (.unreadable cause, disk)
  | .ok result =>
    match result.rejection with
    | some rejection => return (.rejected result rejection, disk)
    | none =>
      if b.dryRun then return (.previewed output result, disk)
      else if !result.isModified && output.same input then
        return (.unchanged output result, disk)
      else
        match result.save disk output with
        | (disk, .ok ()) => return (.written output result, disk)
        | (disk, .error cause) => return (.unwritten output result cause, disk)

/-- **What becomes of several files** with their findings, and the disk after them. -/
def run (b : Batch) : Disk → List (Path × List Finding) → Except Fault (List Step × Disk)
  | disk, [] => .ok ([], disk)
  | disk, (input, fs) :: rest => do
    match ← b.step disk input fs with
    | (.unwritten output result cause, disk) =>
      return ([.unwritten output result cause], disk)
    | (step, disk) =>
      let (steps, disk) ← b.run disk rest
      return (step :: steps, disk)

end Batch

end GnuLint
