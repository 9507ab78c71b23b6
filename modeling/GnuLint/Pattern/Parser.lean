import GnuLint.Pattern.Bracket

/-!
# Reading a pattern

A pattern is read from left to right in one pass. Groups nest, so the pass keeps a
stack of the groups still open (`GnuLint.Regex.Frame`), each with the flags to go back
to; every step takes at least one character, which bounds the steps by the length of
the pattern. The flags in force are spelled out on the way, so the tree that comes
out has none.

Two limits keep patterns within reason: how deeply parts nest
(`GnuLint.Regex.depthLimit`) and how large the automaton of the pattern may become
(`GnuLint.Regex.weightLimit`).
-/

namespace GnuLint.Regex

open Text

/-! ### Items -/

/-- A part of a sequence: its tree, how deeply it is nested, and whether it is
something that can be repeated. -/
structure Item where
  /-- The tree. -/
  regex : Regex
  /-- How deeply it is nested. -/
  depth : Nat
  /-- Whether a repetition may follow: not after a change of flags. -/
  repeatable : Bool

namespace Item

/-- An item that nests nothing. -/
def leaf (r : Regex) : Item := ⟨r, 0, true⟩

/-- The sequence of some items, the last one first. -/
def sequence : List Item → Item
  | [] => leaf .empty
  | [i] => i
  | is => ⟨seqAll (is.reverse.map regex), 1 + (is.map depth).foldl max 0, true⟩

/-- The choice between some items, the last one first. -/
def choice : List Item → Item
  | [i] => i
  | is => ⟨altAll (is.reverse.map regex), 1 + (is.map depth).foldl max 0, true⟩

end Item

/-! ### Groups -/

/-- A group that is still open: the number it remembers its match under, the flags
around it, and what was read before it. -/
structure Frame where
  /-- The number of the group, if it has one. -/
  index : Option Nat
  /-- The flags to go back to. -/
  flags : Flags
  /-- The finished branches around the group, the last one first. -/
  branches : List Item
  /-- The items of the branch around the group, the last one first. -/
  items : List Item

/-- How far a pattern has been read. -/
structure Progress where
  /-- The flags in force. -/
  flags : Flags := {}
  /-- The open groups, the innermost first. -/
  frames : List Frame := []
  /-- The finished branches of the innermost group, the last one first. -/
  branches : List Item := []
  /-- The items of the branch being read, the last one first. -/
  items : List Item := []
  /-- The number of groups so far. -/
  groupCount : Nat := 0
  /-- The names of groups, with their numbers. -/
  names : List (Text × Nat) := []

namespace Progress

/-- The pattern with one more item. -/
def push (p : Progress) (i : Item) : Progress := { p with items := i :: p.items }

/-- What the innermost group matches, if it ends here. -/
def value (p : Progress) : Item := .choice (.sequence p.items :: p.branches)

/-- The pattern at the beginning of another branch. -/
def branch (p : Progress) : Progress :=
  { p with branches := .sequence p.items :: p.branches, items := [] }

/-- The pattern inside a new group. -/
def enter (p : Progress) (index : Option Nat) (flags : Flags) : Progress :=
  { p with
    flags
    frames := ⟨index, p.flags, p.branches, p.items⟩ :: p.frames
    branches := []
    items := [] }

/-- The pattern inside a new group that remembers its match. -/
def enterNumbered (p : Progress) : Progress :=
  let index := p.groupCount + 1
  { p.enter (some index) p.flags with groupCount := index }

/-- The pattern after the innermost group. -/
def leave (p : Progress) : Except PatternError Progress :=
  match p.frames with
  | [] => .error .unopenedGroup
  | f :: frames =>
    let inner := p.value
    let regex := match f.index with
      | some n => .group n inner.regex
      | none => inner.regex
    .ok { p with
      flags := f.flags
      frames
      branches := f.branches
      items := ⟨regex, 1 + inner.depth, true⟩ :: f.items }

end Progress

/-! ### Flags in parentheses -/

/-- The flags with one of them set or cleared. -/
def setFlag (flags : Flags) (on : Bool) : Char → Option Flags
  | 'i' => some { flags with caseless := on }
  | 'm' => some { flags with multiline := on }
  | 's' => some { flags with dotAll := on }
  | 'U' => some { flags with swapGreed := on }
  | 'u' => some { flags with unicode := on }
  | 'R' => some { flags with crlf := on }
  | 'x' => some { flags with verbose := on }
  | _ => none

/-- The flags written up to a colon or a closing parenthesis, that character, and the
text after it. `on` says whether no minus sign has been read, `last` and `seen` what
was read before. -/
def parseFlags (flags : Flags) (on : Bool) (last : Option Char) (seen : List Char) :
    Text → Except PatternError (Flags × Bool × Char × Text)
  | [] => .error .flag
  | c :: s =>
    if c = ':' || c = ')' then
      if last == some '-' then .error .flag else .ok (flags, seen.isEmpty, c, s)
    else if seen.contains c then .error .flag
    else if c = '-' then parseFlags flags false (some c) (c :: seen) s
    else
      match setFlag flags on c with
      | none => .error .flag
      | some flags => parseFlags flags on (some c) (c :: seen) s

/-! ### Names of groups -/

/-- Whether a character may stand in the name of a group. -/
def isNameChar (first : Bool) (c : Char) : Bool :=
  c == '_' || Unicode.isAlphabetic c ||
  (!first && (c == '.' || c == '[' || c == ']' || Unicode.isNumeric c))

/-- The name of a group up to the closing angle bracket, and the text after it. -/
def parseName (s : Text) : Except PatternError (Text × Text) :=
  match s.span (· != '>') with
  | (_, []) => .error .groupName
  | ([], _) => .error .groupName
  | (c :: name, _ :: rest) =>
    if isNameChar true c && name.all (isNameChar false) then .ok (c :: name, rest)
    else .error .groupName

/-! ### Steps -/

/-- The pattern inside the group, or with the flags, that a parenthesis begins; the
text begins after the parenthesis. -/
def openGroup (p : Progress) (s : Text) : Except PatternError (Progress × Text) :=
  match p.flags.skip s with
  | '?' :: '=' :: _ => .error .lookaround
  | '?' :: '!' :: _ => .error .lookaround
  | '?' :: '<' :: '=' :: _ => .error .lookaround
  | '?' :: '<' :: '!' :: _ => .error .lookaround
  | '?' :: 'P' :: '<' :: s => named s
  | '?' :: '<' :: s => named s
  | '?' :: [] => .error .unclosedGroup
  | '?' :: s => do
    let (flags, isEmpty, terminator, rest) ← parseFlags p.flags true none [] s
    if terminator = ')' then
      if isEmpty then .error .nothingToRepeat
      else return ({ p with flags }.push ⟨.empty, 0, false⟩, rest)
    else return (p.enter none flags, rest)
  | s => .ok (p.enterNumbered, s)
where
  /-- The pattern inside a named group; the text begins with the name. -/
  named (s : Text) : Except PatternError (Progress × Text) := do
    let (name, rest) ← parseName s
    if p.names.any (·.1 == name) then .error .groupName
    else
      let q := p.enterNumbered
      return ({ q with names := (name, q.groupCount) :: q.names }, rest)

/-- The pattern with its last item repeated. -/
def repeatLast (p : Progress) (least : Nat) (most : Option Nat) (greedy : Bool) :
    Except PatternError Progress :=
  match p.items with
  | [] => .error .nothingToRepeat
  | i :: items =>
    if i.repeatable then
      let greedy := greedy != p.flags.swapGreed
      .ok { p with items := ⟨.repeated least most greedy i.regex, 1 + i.depth, true⟩ :: items }
    else .error .nothingToRepeat

/-- Whether a question mark follows, which makes a repetition lazy, and the text after
it. -/
def lazyMark : Text → Bool × Text
  | '?' :: s => (true, s)
  | s => (false, s)

/-- A repetition marked by a single character. -/
def repeatMarked (p : Progress) (least : Nat) (most : Option Nat) (s : Text) :
    Except PatternError (Progress × Text) := do
  let (isLazy, rest) := lazyMark s
  return (← repeatLast p least most !isLazy, rest)

/-- The digits that a text begins with, without what does not count between them, and
the text after them. -/
def digitRun (verbose : Bool) : (inComment : Bool) → Text → Text × Text
  | _, [] => ([], [])
  | true, c :: s => digitRun verbose (c != '\n') s
  | false, c :: s =>
    if c.isDigit then
      let (digits, rest) := digitRun verbose false s
      (c :: digits, rest)
    else if verbose && isBlank c then digitRun verbose false s
    else if verbose && c = '#' then digitRun verbose true s
    else ([], c :: s)

/-- A bound of a repetition, with blanks allowed around it: a number below 2³². -/
def bound (flags : Flags) (s : Text) : Except PatternError (Nat × Text) :=
  let (digits, rest) := digitRun flags.verbose false (s.dropWhile isBlank)
  let n := digits.foldl (fun n c => 10 * n + (c.toNat - '0'.toNat)) 0
  if digits.isEmpty || Nat.pow 2 32 ≤ n then .error .repetitionBounds
  else .ok (n, flags.skip (rest.dropWhile isBlank))

/-- A repetition with its bounds in braces; the text begins after the opening brace. -/
def repeatBounded (p : Progress) (s : Text) : Except PatternError (Progress × Text) := do
  let (least, s) ← bound p.flags (p.flags.skip s)
  let (most, s) ← match s with
    | ',' :: s =>
      match p.flags.skip s with
      | '\x7d' :: s => .ok (none, '\x7d' :: s)
      | s => do
        let (most, s) ← bound p.flags s
        Except.ok (some most, s)
    | s => .ok (some least, s)
  match s with
  | '\x7d' :: s =>
    let (isLazy, rest) := lazyMark (p.flags.skip s)
    if most.any (· < least) then .error .repetitionBounds
    else return (← repeatLast p least most !isLazy, rest)
  | _ => .error .repetitionBounds

/-- The set or condition that an atom outside brackets stands for. -/
def atomRegex (flags : Flags) : Atom → Except PatternError Regex
  | .literal c asByte =>
    if !flags.unicode && asByte && 0x80 ≤ c.val then .error .partOfCharacter
    else .ok (.set (flags.literal c))
  | .set s => .ok (.set s)
  | .look l => .ok (.look l)

/-- The pattern after one more step, and the text after that step; the text begins
with the character that says which step it is. -/
def step (p : Progress) (c : Char) (s : Text) : Except PatternError (Progress × Text) :=
  match c with
  | '(' => openGroup p s
  | ')' => do return (← p.leave, s)
  | '|' => .ok (p.branch, s)
  | '[' => do
    let (part, rest) ← Bracket.parse p.flags s
    return (p.push ⟨.set part.chars, part.depth, true⟩, rest)
  | '?' => repeatMarked p 0 (some 1) s
  | '*' => repeatMarked p 0 none s
  | '+' => repeatMarked p 1 none s
  | '\x7b' => repeatBounded p s
  | '\\' => do
    let (a, rest) ← parseEscape p.flags s
    return (p.push (.leaf (← atomRegex p.flags a)), rest)
  | '.' => do return (p.push (.leaf (.set (← p.flags.dot))), s)
  | '^' => .ok (p.push (.leaf (.look p.flags.lineStart)), s)
  | '$' => .ok (p.push (.leaf (.look p.flags.lineEnd)), s)
  | c => .ok (p.push (.leaf (.set (p.flags.literal c))), s)

/-- The pattern after all of a text. The bound counts steps. -/
def runWithin : Nat → Progress → Text → Except PatternError Progress
  | 0, p, _ => .ok p
  | n + 1, p, s =>
    match p.flags.skip s with
    | [] => .ok p
    | c :: s => do
      let (p, rest) ← step p c s
      runWithin n p rest

/-! ### Whole patterns -/

/-- A pattern that has been read: its tree, the number of its groups, and their names. -/
structure Parsed where
  /-- The tree. -/
  regex : Regex
  /-- The number of groups. -/
  groupCount : Nat
  /-- The names of groups, with their numbers. -/
  names : List (Text × Nat)

/-- How deeply the parts of a pattern may be nested. -/
def depthLimit : Nat := 250

/-- **The pattern** that a text writes, or why it writes none. -/
def parse (s : Text) : Except PatternError Parsed := do
  let p ← runWithin (s.length + 1) {} s
  if !p.frames.isEmpty then .error .unclosedGroup
  else
    let whole := p.value
    if depthLimit < whole.depth then .error .tooDeep
    else if weightLimit < whole.regex.weight then .error .tooLarge
    else return ⟨whole.regex, p.groupCount, p.names⟩

end GnuLint.Regex
