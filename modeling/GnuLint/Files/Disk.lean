import GnuLint.Files.Error
import GnuLint.Files.Path
import GnuLint.Text.Utf8

/-!
# Disks

A disk says what is at each location: a directory, a file with its contents, or nothing.
There are no links, and a write succeeds or fails as a whole. Paths are followed name by
name from the root or from the directory a program works in, so that a path through
something that is not a directory leads nowhere, even if it comes back up.

* `GnuLint.Disk.find` – what a path leads to;
* `GnuLint.Disk.read`, `GnuLint.Disk.readText` – the contents of a file;
* `GnuLint.Disk.createDirectories` – a directory with those above it;
* `GnuLint.Disk.write` – new contents of a file, which need not exist before.

Contents change at one location only per write (`GnuLint.Disk.at?_put`), and directories
are created only where nothing was.
-/

namespace GnuLint

/-- What is at a location. -/
inductive Node
  /-- A directory. -/
  | directory
  /-- A file with its contents. -/
  | file (contents : Bytes)
  deriving DecidableEq, Repr

/-- A location: the names from it up to the root, innermost first. -/
abbrev Location := List Text

/-- What is where, and where a program works. -/
structure Disk where
  /-- The locations where something is; the root is there anyway. -/
  entries : List (Location × Node)
  /-- The location from which relative paths lead on. -/
  workingDirectory : Location
  deriving DecidableEq, Repr

namespace Disk

/-! ### Locations -/

/-- **What is at a location**, if anything is. -/
def at? (d : Disk) (l : Location) : Option Node :=
  if l = [] then some .directory else d.entries.lookup l

/-- Entries with a new node at a location. -/
def putInto (l : Location) (n : Node) : List (Location × Node) → List (Location × Node)
  | [] => [(l, n)]
  | (k, m) :: entries =>
    if k = l then (l, n) :: entries else (k, m) :: putInto l n entries

/-- **The disk with a new node at a location.** -/
def put (d : Disk) (l : Location) (n : Node) : Disk :=
  { d with entries := putInto l n d.entries }

theorem lookup_putInto (l k : Location) (n : Node) (entries : List (Location × Node)) :
    (putInto l n entries).lookup k = if k = l then some n else entries.lookup k := by
  induction entries with
  | nil =>
    rw [putInto, List.lookup_cons]
    by_cases h : k = l <;> simp [h, beq_eq_false_iff_ne.2]
  | cons e entries ih =>
    obtain ⟨j, m⟩ := e
    by_cases hj : j = l
    · subst hj
      by_cases h : k = j <;> simp [putInto, List.lookup_cons, h, beq_eq_false_iff_ne.2]
    · by_cases h : k = j
      · subst h
        simp [putInto, hj]
      · simp [putInto, List.lookup_cons, hj, h, beq_eq_false_iff_ne.2, ih]

/-- A new node is seen at its own location and nowhere else. -/
theorem at?_put (d : Disk) {l : Location} (hl : l ≠ []) (n : Node) (k : Location) :
    (d.put l n).at? k = if k = l then some n else d.at? k := by
  unfold at? put
  by_cases hk : k = []
  · subst hk
    simp [hl.symm]
  · simp [hk, lookup_putInto]

/-! ### Following paths -/

/-- The greatest number of bytes of a name. -/
def nameLimit : Nat := 255

/-- The number of bytes from which on a path is too long. -/
def pathLimit : Nat := 4096

/-- The location of a name in a directory. -/
def descend (l : Location) (name : Text) : Except FileError Location :=
  if name = ['.', '.'] then .ok l.tail
  else if nameLimit < Text.byteLength name then .error .nameTooLong
  else .ok (name :: l)

/-- Where some stretches between slashes lead to. Each of them, even one that counts for
nothing, has to be looked up in a directory. -/
def walk (d : Disk) : Location → List Text → Except FileError Location
  | l, [] => .ok l
  | l, s :: rest =>
    match d.at? l with
    | none => .error .notFound
    | some (.file _) => .error .notADirectory
    | some .directory =>
      if Path.isIdle s then d.walk l rest
      else
        match descend l s with
        | .error e => .error e
        | .ok next => d.walk next rest

/-- What is wrong with a path, whatever is on the disk. -/
def spellingError? (p : Path) : Option FileError :=
  if p.spelling.elem '\x00' then some .invalidName
  else if p.spelling.isEmpty then some .notFound
  else if pathLimit ≤ Text.byteLength p.spelling then some .nameTooLong
  else none

/-- The location where a path starts. -/
def origin (d : Disk) (p : Path) : Location :=
  if p.isAbsolute then [] else d.workingDirectory

/-- The location that a path leads to, where nothing need be. -/
def locate (d : Disk) (p : Path) : Except FileError Location :=
  match spellingError? p with
  | some e => .error e
  | none => d.walk (d.origin p) p.split.2

/-- **What a path leads to.** -/
def find (d : Disk) (p : Path) : Except FileError Node := do
  match d.at? (← d.locate p) with
  | some n => .ok n
  | none => .error .notFound

/-- Whether a path leads to something. -/
def hasPath (d : Disk) (p : Path) : Bool := (d.find p).isOk

/-- Whether a path leads to a directory. -/
def isDirectory (d : Disk) (p : Path) : Bool :=
  match d.find p with
  | .ok .directory => true
  | _ => false

/-- Whether a path leads to a file. -/
def isFile (d : Disk) (p : Path) : Bool :=
  match d.find p with
  | .ok (.file _) => true
  | _ => false

/-! ### Reading -/

/-- **The contents of a file.** -/
def read (d : Disk) (p : Path) : Except FileError Bytes := do
  match ← d.find p with
  | .file contents => .ok contents
  | .directory => .error .isADirectory

/-- **The text of a file.** -/
def readText (d : Disk) (p : Path) : Except FileError Text := do
  match Bytes.toText? (← d.read p) with
  | some text => .ok text
  | none => .error .invalidText

/-! ### Creating and writing -/

/-- Where something new may go. -/
inductive Place
  /-- The path ends in the root or in dots, so that there is a directory already. -/
  | standing
  /-- The path ends in a name, perhaps followed by slashes. -/
  | entry (l : Location) (slashed : Bool)
  deriving DecidableEq, Repr

/-- Where some stretches lead from a location, if the last name is only looked for in its
directory. -/
def placeFrom (d : Disk) (l : Location) (stretches : List Text) : Except FileError Place :=
  let bare := (stretches.reverse.dropWhile List.isEmpty).reverse
  match bare.getLast? with
  | none => .ok .standing
  | some last =>
    match d.walk l (bare.dropLast ++ [[]]) with
    | .error e => .error e
    | .ok directory =>
      if last = ['.'] || last = ['.', '.'] then .ok .standing
      else (descend directory last).map (.entry · (bare.length < stretches.length))

/-- Where a path leads, if its last name is only looked for in its directory. -/
def place (d : Disk) (p : Path) : Except FileError Place :=
  match spellingError? p with
  | some e => .error e
  | none => d.placeFrom (d.origin p) p.split.2

/-- The disk with a new directory, where nothing may be before. -/
def createDirectory (d : Disk) (p : Path) : Except FileError Disk := do
  match ← d.place p with
  | .standing => .error .alreadyExists
  | .entry l _ =>
    match d.at? l with
    | some _ => .error .alreadyExists
    | none => .ok (d.put l .directory)

/-- What follows from trying to create a directory: it is no error if one is there. -/
def settle (d : Disk) (p : Path) : Except FileError Disk → Disk × Except FileError Unit
  | .ok d' => (d', .ok ())
  | .error e => if d.isDirectory p then (d, .ok ()) else (d, .error e)

/-- The disk after trying to create the first of some directories, each of which lies in
the next one; the next ones are created only if they are missing. -/
def createAll (d : Disk) : List Path → Disk × Except FileError Unit
  | [] => (d, .error .notFound)
  | p :: above =>
    if p.spelling.isEmpty then (d, .ok ())
    else
      match d.createDirectory p with
      | .error .notFound =>
        match d.createAll above with
        | (d', .error e) => (d', .error e)
        | (d', .ok ()) => d'.settle p (d'.createDirectory p)
      | attempt => d.settle p attempt

/-- **The disk after trying to create a directory** with those above it. Directories
created before an error stay. -/
def createDirectories (d : Disk) (p : Path) : Disk × Except FileError Unit :=
  d.createAll p.ancestors

/-- **The disk with new contents of a file**, which is created if nothing is there. -/
def write (d : Disk) (p : Path) (contents : Bytes) : Except FileError Disk := do
  match ← d.place p with
  | .standing => .error .isADirectory
  | .entry l slashed =>
    if slashed || d.at? l = some .directory then .error .isADirectory
    else .ok (d.put l (.file contents))

end Disk

end GnuLint
