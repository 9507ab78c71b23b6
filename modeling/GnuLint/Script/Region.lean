import GnuLint.Script.Heredoc

/-!
# Regions of a script

Line after line, a script is outside or inside a here-document. Lines that open, fill or
close a here-document are excluded from all checks. One here-document is followed at a
time: inside it, nothing opens another one, and of two openers on a line the first
counts. A comment opens none.

A here-document is closed by its delimiter alone on a line, blanks at the two ends not
counted; one that is never closed reaches to the end of the script.
-/

namespace GnuLint

/-- Where a line stands. -/
inductive Region
  /-- In no here-document. -/
  | outside
  /-- In the here-document with a delimiter. -/
  | inside (delimiter : Text)
  deriving DecidableEq, Repr

/-- Whether a line is a comment from its first character on, blanks not counted. -/
def isComment (line : Text) : Bool := (Text.trimStart line).head? == some '#'

/-- The delimiter of the here-document that a line opens outside of any. -/
def opens? (line : Text) : Option Text :=
  if isComment line then none else Heredoc.delimiter? line

namespace Region

/-- The region after a line. -/
def next (region : Region) (line : Text) : Region :=
  match region with
  | outside => (opens? line).elim outside inside
  | inside delimiter => if Text.trim line = delimiter then outside else inside delimiter

/-- **Whether a line is excluded** from all checks. -/
def excludes (region : Region) (line : Text) : Bool :=
  match region with
  | outside => (opens? line).isSome
  | inside _ => true

@[simp] theorem excludes_inside (delimiter line : Text) :
    (inside delimiter).excludes line = true := rfl

/-- The lines with a mark on the excluded ones, from a region on. -/
def mark : Region → List Text → List (Text × Bool)
  | _, [] => []
  | region, line :: lines => (line, region.excludes line) :: mark (region.next line) lines

end Region

end GnuLint
