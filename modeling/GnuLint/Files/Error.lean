/-!
# Why a file operation fails

The causes for which reading or writing a file fails, with the words and the number that
the system gives them.
-/

namespace GnuLint

/-- A cause for which a file operation fails. -/
inductive FileError
  /-- There is nothing under the path. -/
  | notFound
  /-- The file may not be used so. -/
  | permissionDenied
  /-- There is something under the path already. -/
  | alreadyExists
  /-- A part of the path is a file where a directory is needed. -/
  | notADirectory
  /-- The path leads to a directory where a file is needed. -/
  | isADirectory
  /-- The path, or a part of it, is too long. -/
  | nameTooLong
  /-- The path has a character in it that no path can have. -/
  | invalidName
  /-- The contents are not valid UTF-8. -/
  | invalidText
  deriving DecidableEq, Repr

/-- The words for a cause. -/
def FileError.message : FileError → String
  | notFound => "No such file or directory (os error 2)"
  | permissionDenied => "Permission denied (os error 13)"
  | alreadyExists => "File exists (os error 17)"
  | notADirectory => "Not a directory (os error 20)"
  | isADirectory => "Is a directory (os error 21)"
  | nameTooLong => "File name too long (os error 36)"
  | invalidName => "file name contained an unexpected NUL byte"
  | invalidText => "stream did not contain valid UTF-8"

end GnuLint
