import GnuLint.Text.Basic

/-!
# Paths

A path is a text whose parts are separated by slashes. Different spellings can mean the
same path: repeated slashes and single dots count for nothing, except that a dot at the
very beginning of a relative path is kept. Nothing is looked up on a disk, so a double
dot is a part like any other.

* `GnuLint.Path.components` – the parts of a path, what two spellings are compared by;
* `GnuLint.Path.parent?`, `GnuLint.Path.fileName?` – the path without its last part, and
  that part;
* `GnuLint.Path.join` – a path inside another one.
-/

namespace GnuLint

/-- A path, as it is spelled. -/
structure Path where
  /-- The spelling. -/
  spelling : Text
  deriving DecidableEq, Repr

/-- A part of a path. -/
inductive PathPart
  /-- The root, at the beginning of an absolute path. -/
  | root
  /-- A dot at the beginning of a relative path. -/
  | here
  /-- A double dot. -/
  | up
  /-- A name. -/
  | name (s : Text)
  deriving DecidableEq, Repr

namespace Path

/-- The path of a spelling. -/
def ofString (s : String) : Path := ⟨s.toList⟩

/-- A path as it is shown. -/
def toString (p : Path) : String := String.ofList p.spelling

/-! ### Parts -/

/-- A text cut at every slash. -/
def splitSlashes : Text → List Text
  | [] => [[]]
  | '/' :: s => [] :: splitSlashes s
  | c :: s =>
    match splitSlashes s with
    | [] => [[c]]
    | part :: parts => (c :: part) :: parts

/-- What a path begins with – the root, a dot of its own, or nothing – and the stretches
between the slashes after it. -/
def split (p : Path) : Option PathPart × List Text :=
  match p.spelling with
  | '/' :: s => (some .root, splitSlashes s)
  | ['.'] => (some .here, [])
  | '.' :: '/' :: s => (some .here, splitSlashes s)
  | s => (none, splitSlashes s)

/-- Whether a stretch between slashes counts for nothing. -/
def isIdle (part : Text) : Bool := part.isEmpty || part == ['.']

/-- The part that a stretch between slashes stands for. -/
def part (s : Text) : PathPart := if s == ['.', '.'] then .up else .name s

/-- **The parts of a path.** -/
def components (p : Path) : List PathPart :=
  let (start, parts) := p.split
  start.toList ++ (parts.filter (!isIdle ·)).map part

/-- Whether two spellings mean the same path. -/
def same (p q : Path) : Bool := p.components == q.components

theorem same_iff {p q : Path} : p.same q = true ↔ p.components = q.components := by
  simp [same]

/-- Whether a path begins at the root. -/
def isAbsolute (p : Path) : Bool := p.spelling.head? == some '/'

/-! ### The last part -/

/-- Some stretches without the idle ones at their end. -/
def trimIdle (parts : List Text) : List Text := (parts.reverse.dropWhile isIdle).reverse

/-- The spelling of a beginning and some stretches after it. -/
def spell : Option PathPart → List Text → Text
  | some .root, parts => '/' :: ['/'].intercalate parts
  | some .here, [] => ['.']
  | some .here, parts => '.' :: '/' :: ['/'].intercalate parts
  | _, parts => ['/'].intercalate parts

/-- The path without its last part; the root and the empty path have none. -/
def parent? (p : Path) : Option Path :=
  let (start, parts) := p.split
  match trimIdle parts with
  | [] => if start = some .here then some ⟨[]⟩ else none
  | parts => some ⟨spell start (trimIdle parts.dropLast)⟩

/-- A path and at most a number of those above it, innermost first. -/
def ancestorsWithin : Nat → Path → List Path
  | 0, p => [p]
  | n + 1, p =>
    match p.parent? with
    | none => [p]
    | some parent => p :: ancestorsWithin n parent

/-- A path and all those above it, innermost first. -/
def ancestors (p : Path) : List Path := ancestorsWithin p.components.length p

/-- The last part of a path, if it is a name. -/
def fileName? (p : Path) : Option Text :=
  match p.components.getLast? with
  | some (.name s) => some s
  | _ => none

/-! ### Joining -/

/-- A path taken inside another one; an absolute path stays what it is. -/
def join (base p : Path) : Path :=
  if p.isAbsolute || base.spelling.isEmpty then p
  else if base.spelling.getLast? = some '/' then ⟨base.spelling ++ p.spelling⟩
  else ⟨base.spelling ++ '/' :: p.spelling⟩

end Path

end GnuLint
