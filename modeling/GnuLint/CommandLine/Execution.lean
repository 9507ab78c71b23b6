import GnuLint.CommandLine.Failure

/-!
# What a run of the program leaves

A run ends with an exit code, after printing to two channels, and leaves the disk changed
or not.
-/

namespace GnuLint.CommandLine

/-- What a run leaves. -/
structure Execution where
  /-- The exit code. -/
  exitCode : Nat
  /-- What was printed as output. -/
  output : Text
  /-- What was printed as errors. -/
  errors : Text
  /-- The disk. -/
  disk : Disk
  deriving DecidableEq, Repr

namespace Execution

/-- A line of its own. -/
def line (s : String) : Text := s.toList ++ ['\n']

/-- The lines of a failure, after a word that says that it is one. -/
def failureLines (word : String) (f : Failure) : Text :=
  word.toList ++ ": ".toList ++ f.text ++ ['\n']

/-- The run that a failure ends. -/
def ofFailure (disk : Disk) (f : Failure) : Execution :=
  ⟨1, [], failureLines "error" f, disk⟩

end Execution

end GnuLint.CommandLine
