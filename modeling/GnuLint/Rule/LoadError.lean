import GnuLint.Files.Error
import GnuLint.Files.Path
import GnuLint.Rule.Document

/-!
# Why rules cannot be loaded

A file of rules cannot be read, or it is refused. An error is told by its own words,
followed by those for what lies behind it.
-/

namespace GnuLint

/-- A cause for which rules cannot be loaded from a file. -/
inductive LoadError
  /-- The file cannot be read. -/
  | unreadable (path : Path) (cause : FileError)
  /-- The file is refused. -/
  | refused (path : Path) (cause : DocumentError)
  deriving DecidableEq, Repr

namespace LoadError

/-- The words for a cause. -/
def message : LoadError → String
  | unreadable path _ => "Failed to read rules file: " ++ path.toString
  | refused path (.malformed _) => "Failed to parse rules file: " ++ path.toString
  | refused path (.invalidRule index id _) =>
    "Invalid rule #" ++ toString index ++ " (" ++ id ++ ") in " ++ path.toString

/-- The words for what lies behind a cause, from the nearest to the farthest. -/
def causes : LoadError → List String
  | unreadable _ cause => [cause.message]
  | refused _ (.malformed cause) => [cause.message]
  | refused _ (.invalidRule _ _ cause) => cause.chain

end LoadError

end GnuLint
