import GnuLint.Files.Disk
import GnuLint.Finding.Scan

/-!
# Scanning files

A file is read line by line, and a line that cannot be decoded ends its scan. A file that
cannot be opened fails at line zero; a directory can be opened, but its first line cannot
be read. Files are scanned independently of each other.
-/

namespace GnuLint.RuleSet

/-- **The findings in a file.** -/
def scanFile (s : RuleSet) (disk : Disk) (path : Path) :
    Except (ScanError FileError) (List Finding) :=
  match disk.find path with
  | .error cause => .error ⟨path, 0, cause⟩
  | .ok .directory => s.scanReads path [.error .isADirectory]
  | .ok (.file contents) => s.scanBytes path .invalidText contents

/-- **The findings in some files**, each by itself. -/
def scanFiles (s : RuleSet) (disk : Disk) (paths : List Path) :
    List (Path × Except (ScanError FileError) (List Finding)) :=
  paths.map fun path => (path, s.scanFile disk path)

end GnuLint.RuleSet
