import GnuLint.Pattern.Escape

/-!
# Bracket expressions

A bracket expression stands for a set of characters: single characters, ranges,
escapes, named ASCII classes and further bracket expressions, joined by union or by
one of the operators `&&`, `--` and `~~`, which bind to the left.

Brackets nest, so reading one keeps a stack of the brackets still open
(`GnuLint.Bracket.Level`); every step takes at least one character, which bounds the
steps by the length of the text. Along with each set goes the depth of its nesting,
which a pattern may not take too far.
-/

namespace GnuLint.Bracket

open Text

/-! ### Sets with their depth -/

/-- A set, and how deeply the expression for it is nested. -/
structure Part where
  /-- The set. -/
  chars : CharSet
  /-- How deeply its expression is nested. -/
  depth : Nat

namespace Part

/-- A part without nesting. -/
def leaf (s : CharSet) : Part := ⟨s, 0⟩

/-- The union of some parts; the last one comes first. -/
def union : List Part → Part
  | [] => leaf .empty
  | [p] => p
  | ps => ⟨.unionAll (ps.reverse.map chars), 1 + (ps.map depth).foldl max 0⟩

end Part

/-- An operator between two sets. -/
inductive Operator
  /-- The characters in both sets. -/
  | intersection
  /-- The characters in the first set only. -/
  | difference
  /-- The characters in exactly one of the sets. -/
  | symmetricDifference

/-- The set that an operator makes of two sets, each closed under case first. -/
def Operator.apply (flags : Flags) (op : Operator) (a b : Part) : Part :=
  let (s, t) := (flags.fold a.chars, flags.fold b.chars)
  let combined := match op with
    | intersection => .inter s t
    | difference => .diff s t
    | symmetricDifference => .symmDiff s t
  ⟨combined, 1 + max a.depth b.depth⟩

/-- A bracket that is still open: whether it is negated, the operator that waits for
its second set, and the parts read since, the last one first. -/
structure Level where
  /-- Whether the bracket begins with a caret. -/
  negated : Bool
  /-- The set before the last operator, and that operator. -/
  pending : Option (Part × Operator)
  /-- The parts read since the last operator, the last one first. -/
  parts : List Part

namespace Level

/-- The bracket with one more part. -/
def push (level : Level) (p : Part) : Level := { level with parts := p :: level.parts }

/-- The set read so far. -/
def value (flags : Flags) (level : Level) : Part :=
  let latest := Part.union level.parts
  match level.pending with
  | none => latest
  | some (first, op) => op.apply flags first latest

/-- The bracket after an operator. -/
def operate (flags : Flags) (level : Level) (op : Operator) : Level :=
  { level with pending := some (level.value flags, op), parts := [] }

/-- The set of a bracket that is closed here. -/
def close (flags : Flags) (level : Level) : Except PatternError Part := do
  let p := level.value flags
  return ⟨← flags.foldAndNegate level.negated p.chars, 1 + p.depth⟩

end Level

/-! ### Named classes -/

/-- The set of a class named between colons. -/
def namedClass? (name : Text) : Option CharSet :=
  match String.ofList name with
  | "alnum" => some (.ofRanges [('0', '9'), ('A', 'Z'), ('a', 'z')])
  | "alpha" => some (.ofRanges [('A', 'Z'), ('a', 'z')])
  | "ascii" => some .ascii
  | "blank" => some (.ofRanges [('\t', '\t'), (' ', ' ')])
  | "cntrl" => some (.ofRanges [('\x00', '\x1f'), ('\x7f', '\x7f')])
  | "digit" => some (.range '0' '9')
  | "graph" => some (.range '!' '~')
  | "lower" => some (.range 'a' 'z')
  | "print" => some (.range ' ' '~')
  | "punct" => some (.ofRanges [('!', '/'), (':', '@'), ('[', '\x60'), ('\x7b', '~')])
  | "space" => some (.ofRanges [('\t', '\r'), (' ', ' ')])
  | "upper" => some (.range 'A' 'Z')
  | "word" => some (.ofRanges [('0', '9'), ('A', 'Z'), ('_', '_'), ('a', 'z')])
  | "xdigit" => some (.ofRanges [('0', '9'), ('A', 'F'), ('a', 'f')])
  | _ => none

/-- The named class that a text begins with, and the text after it. A text that
begins like one but is none is read as an ordinary bracket. -/
def namedClass (s : Text) : Option ((Bool × CharSet) × Text) := do
  let s ← stripStart? s ['[', ':']
  let (negated, s) := match s with
    | '^' :: s => (true, s)
    | s => (false, s)
  let (name, s) := s.span (· != ':')
  let rest ← stripStart? s [':', ']']
  return ((negated, ← namedClass? name), rest)

/-! ### Characters and ranges -/

/-- The atom that a text begins with inside brackets, where only the backslash has a
meaning. -/
def atom (flags : Flags) : Text → Except PatternError (Atom × Text)
  | [] => .error .unclosedBracket
  | '\\' :: s => parseEscape flags s
  | c :: s => .ok (.literal c false, s)

/-- The character that an atom stands for as an end of a range. -/
def rangeEnd (flags : Flags) : Atom → Except PatternError Char
  | .literal c _ =>
    if flags.unicode || c.val < 0x80 then .ok c else .error .partOfCharacter
  | _ => .error .bracketRange

/-- The set that an atom stands for as a member of brackets. -/
def member (flags : Flags) : Atom → Except PatternError CharSet
  | .literal c b => do return .single (← rangeEnd flags (.literal c b))
  | .set s => .ok s
  | .look _ => .error .bracketItem

/-- The character after the one that a text begins with, blanks and the sign that
opens a comment left out where they do not count. -/
def peek (flags : Flags) : Text → Option Char
  | [] => none
  | _ :: s =>
    if !flags.verbose then s.head?
    else
      match s.dropWhile isBlank with
      | [] => s.head?
      | '#' :: t => ((t.dropWhile isBlank).head?).or s.head?
      | c :: _ => some c

/-- The member of brackets that a text begins with: an atom, or a range between two
of them. A hyphen makes no range before another hyphen or before the end. -/
def item (flags : Flags) (s : Text) : Except PatternError (Part × Text) := do
  let (first, s) ← atom flags s
  let s := flags.skip s
  match s with
  | [] => .error .unclosedBracket
  | '-' :: t =>
    if peek flags s == some ']' || peek flags s == some '-' then
      return (.leaf (← member flags first), s)
    else
      match flags.skip t with
      | [] => .error .unclosedBracket
      | t => do
        let (last, rest) ← atom flags t
        let (low, high) := (← rangeEnd flags first, ← rangeEnd flags last)
        if low ≤ high then return (.leaf (.range low high), rest)
        else .error .bracketRange
  | s => return (.leaf (← member flags first), s)

/-! ### Opening and reading -/

/-- The hyphens at the beginning of brackets, which stand for themselves. -/
def leadingHyphens (flags : Flags) : Nat → Level → Text → Except PatternError (Level × Text)
  | _, _, [] => .error .unclosedBracket
  | n + 1, level, '-' :: s =>
    leadingHyphens flags n (level.push (.leaf (.single '-'))) (flags.skip s)
  | _, level, s => .ok (level, s)

/-- The beginning of brackets; the text begins after the opening one. A closing
bracket in the first place stands for itself. -/
def «open» (flags : Flags) (s : Text) : Except PatternError (Level × Text) := do
  let s := flags.skip s
  let (negated, s) := match s with
    | '^' :: s => (true, flags.skip s)
    | s => (false, s)
  let (level, s) ← leadingHyphens flags s.length ⟨negated, none, []⟩ s
  match level.parts, s with
  | [], ']' :: s =>
    match flags.skip s with
    | [] => .error .unclosedBracket
    | s => return (level.push (.leaf (.single ']')), s)
  | _, s => return (level, s)

/-- What is left of brackets: the innermost bracket, the ones around it from the
inside out, and the text. The bound counts steps. -/
def readWithin (flags : Flags) :
    Nat → Level → List Level → Text → Except PatternError (Part × Text)
  | 0, _, _, _ => .error .unclosedBracket
  | n + 1, level, outer, s =>
    match flags.skip s with
    | [] => .error .unclosedBracket
    | '[' :: t =>
      match namedClass ('[' :: t) with
      | some ((negated, chars), rest) => do
        let chars ← flags.foldAndNegate negated chars
        readWithin flags n (level.push (.leaf chars)) outer rest
      | none => do
        let (inner, rest) ← «open» flags t
        readWithin flags n inner (level :: outer) rest
    | ']' :: t => do
      let p ← level.close flags
      match outer with
      | [] => return (p, t)
      | level :: outer => readWithin flags n (level.push p) outer t
    | '&' :: '&' :: t => readWithin flags n (level.operate flags .intersection) outer t
    | '-' :: '-' :: t => readWithin flags n (level.operate flags .difference) outer t
    | '~' :: '~' :: t =>
      readWithin flags n (level.operate flags .symmetricDifference) outer t
    | s => do
      let (p, rest) ← item flags s
      readWithin flags n (level.push p) outer rest

/-- **The bracket expression** that a text begins with, and the text after it; the
text begins after the opening bracket. -/
def parse (flags : Flags) (s : Text) : Except PatternError (Part × Text) := do
  let (level, rest) ← «open» flags s
  readWithin flags (rest.length + 1) level [] rest

end GnuLint.Bracket
