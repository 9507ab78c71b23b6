import GnuLint.Pattern.Error
import GnuLint.Pattern.Property
import GnuLint.Pattern.Regex
import GnuLint.Text.Blank

/-!
# Flags and escapes

The smallest parts of a pattern: the flags in force, the blanks and comments that the
flag `x` makes meaningless, and the escapes, each of which stands for one character,
for a set of characters or for a condition on a position.

Without the flag `u` a pattern speaks about bytes. As texts are always valid UTF-8,
only sets of one-byte characters are let through then, which leaves no complement.
-/

namespace GnuLint

open Text

/-! ### Flags -/

/-- The flags in force at a place of a pattern. -/
structure Flags where
  /-- Letters match in either case (`i`). -/
  caseless : Bool := false
  /-- `^` and `$` match at every line (`m`). -/
  multiline : Bool := false
  /-- `.` matches a newline too (`s`). -/
  dotAll : Bool := false
  /-- Repetitions are lazy unless marked (`U`). -/
  swapGreed : Bool := false
  /-- Sets and words are those of Unicode (`u`). -/
  unicode : Bool := true
  /-- A carriage return and a newline end a line (`R`). -/
  crlf : Bool := false
  /-- Blanks and comments do not count (`x`). -/
  verbose : Bool := false
  deriving DecidableEq, Repr

namespace Flags

/-- The set closed under case as far as the flags ask for it. -/
def fold (flags : Flags) (s : CharSet) : CharSet :=
  if !flags.caseless then s
  else if flags.unicode then .caseless s
  else .inter (.caseless s) .ascii

/-- The set closed under case and then complemented, if asked for. -/
def foldAndNegate (flags : Flags) (negated : Bool) (s : CharSet) :
    Except PatternError CharSet :=
  if !negated then .ok (flags.fold s)
  else if flags.unicode then .ok (.compl (flags.fold s))
  else .error .partOfCharacter

/-- The set that one written character stands for. -/
def literal (flags : Flags) (c : Char) : CharSet :=
  if !flags.caseless then .single c
  else
    let others := if flags.unicode then Unicode.variants c
      else (Unicode.variants c).filter fun d => c.val < 0x80 && d.val < 0x80
    others.foldl (fun s d => .union s (.single d)) (.single c)

/-- The set that a dot stands for. -/
def dot (flags : Flags) : Except PatternError CharSet :=
  if !flags.unicode then .error .partOfCharacter
  else if flags.dotAll then .ok .any
  else if flags.crlf then .ok (.compl (.union (.single '\n') (.single '\r')))
  else .ok (.compl (.single '\n'))

/-- The condition that `^` stands for. -/
def lineStart (flags : Flags) : Look :=
  if flags.multiline then .lineStart flags.crlf else .textStart

/-- The condition that `$` stands for. -/
def lineEnd (flags : Flags) : Look :=
  if flags.multiline then .lineEnd flags.crlf else .textEnd

end Flags

/-! ### Blanks and comments -/

/-- The text without the blanks and comments it begins with. A comment goes on to the
end of its line; `inComment` says whether the text begins inside one. -/
def skipComments : (inComment : Bool) → Text → Text
  | _, [] => []
  | false, c :: s =>
    if isBlank c then skipComments false s
    else if c = '#' then skipComments true s
    else c :: s
  | true, c :: s => if c = '\n' then skipComments false s else skipComments true s

/-- The text without what does not count at its beginning. -/
def Flags.skip (flags : Flags) (s : Text) : Text :=
  if flags.verbose then skipComments false s else s

/-- The text up to the next closing brace, without what does not count, and the text
after the brace. -/
def braced (verbose : Bool) : (inComment : Bool) → Text → Option (Text × Text)
  | _, [] => none
  | true, c :: s => braced verbose (c != '\n') s
  | false, c :: s =>
    if c = '\x7d' then some ([], s)
    else if verbose && isBlank c then braced verbose false s
    else if verbose && c = '#' then braced verbose true s
    else (braced verbose false s).map fun (name, rest) => (c :: name, rest)

/-! ### Atoms -/

/-- The smallest part of a pattern that matches something. -/
inductive Atom
  /-- A written character; `asByte` tells the two-digit escape that means a byte. -/
  | literal (c : Char) (asByte : Bool)
  /-- A set of characters. -/
  | set (chars : CharSet)
  /-- A condition on a position. -/
  | look (condition : Look)

/-- The characters that have a meaning of their own in a pattern. -/
def isMeta (c : Char) : Bool := "\\.+*?()|[]\x7b\x7d^$#&-~".toList.contains c

/-- The characters that a backslash may stand before without giving them a meaning:
all of ASCII but letters, digits and angle brackets. -/
def isEscapable (c : Char) : Bool :=
  isMeta c || (c.val < 0x80 && !c.isAlphanum && c != '<' && c != '>')

/-- Whether a character is a digit in base sixteen. -/
def isHexDigit (c : Char) : Bool :=
  c.isDigit || ('a' ≤ c && c ≤ 'f') || ('A' ≤ c && c ≤ 'F')

/-- The number that some digits in base sixteen write. -/
def hexValue (digits : Text) : Nat := Unicode.RangeTable.numeral (digits.map Char.toLower)

/-- The character with a number, if there is one. -/
def charOfNumber? (n : Nat) : Option Char :=
  if n.isValidChar then some (Char.ofNat n) else none

/-- A given count of digits in base sixteen, and the text after them. -/
def hexDigitsOf (flags : Flags) : Nat → Text → Except PatternError (Text × Text)
  | 0, s => .ok ([], s)
  | _ + 1, [] => .error .unfinishedEscape
  | n + 1, c :: s =>
    if isHexDigit c then do
      let (digits, rest) ← hexDigitsOf flags n (flags.skip s)
      return (c :: digits, rest)
    else .error .characterNumber

/-- A character given by its number, in braces or with a fixed count of digits. -/
def charByNumber (flags : Flags) (count : Nat) (asByte : Bool) (s : Text) :
    Except PatternError (Atom × Text) :=
  match flags.skip s with
  | [] => .error .unfinishedEscape
  | '\x7b' :: s =>
    match braced flags.verbose false s with
    | none => .error .unfinishedEscape
    | some (digits, rest) =>
      if digits.isEmpty || !digits.all isHexDigit then .error .characterNumber
      else
        match charOfNumber? (hexValue digits) with
        | none => .error .characterNumber
        | some c => .ok (.literal c false, rest)
  | s => do
    let (digits, rest) ← hexDigitsOf flags count s
    match charOfNumber? (hexValue digits) with
    | none => .error .characterNumber
    | some c => return (.literal c asByte, rest)

/-- The two sides of the first place where a text holds a mark, the mark left out. -/
def splitAtMark? (mark : Text) : Text → Option (Text × Text)
  | [] => none
  | c :: s =>
    match stripStart? (c :: s) mark with
    | some rest => some ([], rest)
    | none => (splitAtMark? mark s).map fun (l, r) => (c :: l, r)

/-- The set that the words between the braces of a property escape stand for. -/
def propertySet? (name : Text) : Option CharSet :=
  match splitAtMark? ['!', '='] name with
  | some (property, value) => Property.byValue? property value
  | none =>
    match splitAtMark? [':'] name with
    | some (property, value) => Property.byValue? property value
    | none =>
      match splitAtMark? ['='] name with
      | some (property, value) => Property.byValue? property value
      | none => Property.byName? name

/-- A set given by a property; the text begins after the `p`. -/
def propertyEscape (flags : Flags) (negated : Bool) (s : Text) :
    Except PatternError (Atom × Text) := do
  let (name, rest) ← match flags.skip s with
    | [] => .error .unfinishedEscape
    | '\x7b' :: s =>
      match braced flags.verbose false s with
      | none => .error PatternError.unfinishedEscape
      | some (name, rest) => .ok (name, rest)
    | '\\' :: _ => .error .unknownProperty
    | c :: s => .ok ([c], s)
  if !flags.unicode then .error .partOfCharacter
  else
    match propertySet? name with
    | none => .error .unknownProperty
    | some s => return (.set (← flags.foldAndNegate negated s), rest)

/-- The digits, blanks or word characters, as the flags have them. -/
def shorthandSet (flags : Flags) (kind : Char) : CharSet :=
  match kind with
  | 'd' => if flags.unicode then Property.decimalDigits else .range '0' '9'
  | 's' =>
    if flags.unicode then Property.blanks else .ofRanges [('\t', '\r'), (' ', ' ')]
  | _ =>
    if flags.unicode then Property.wordChars
    else .ofRanges [('0', '9'), ('A', 'Z'), ('_', '_'), ('a', 'z')]

/-- A shorthand for a set of characters. -/
def shorthand (flags : Flags) (kind : Char) (negated : Bool) : Except PatternError Atom :=
  if !negated then .ok (.set (shorthandSet flags kind))
  else if flags.unicode then .ok (.set (.compl (shorthandSet flags kind)))
  else .error .partOfCharacter

/-- The edge of a word that a name in braces stands for. -/
def wordEdge? (name : Text) : Option WordEdge :=
  match String.ofList name with
  | "start" => some .start
  | "end" => some .stop
  | "start-half" => some .startHalf
  | "end-half" => some .stopHalf
  | _ => none

/-- A word boundary, perhaps of a kind named in braces; the text begins after the
`b`. Braces that do not begin like a name belong to a repetition. -/
def wordBoundary (flags : Flags) (s : Text) : Except PatternError (Atom × Text) :=
  let plain := (Atom.look (.word .boundary flags.unicode), s)
  match s with
  | '\x7b' :: inner =>
    match flags.skip inner with
    | [] => .error .repetitionBounds
    | c :: _ =>
      if c.isAlpha || c == '-' then
        match braced flags.verbose false inner with
        | none => .error .unknownEscape
        | some (name, rest) =>
          match wordEdge? name with
          | none => .error .unknownEscape
          | some edge => .ok (.look (.word edge flags.unicode), rest)
      else .ok plain
  | _ => .ok plain

/-- **The escape** that a text begins with, and the text after it; the text begins
after the backslash. -/
def parseEscape (flags : Flags) : Text → Except PatternError (Atom × Text)
  | [] => .error .unfinishedEscape
  | c :: s =>
    match c with
    | 'x' => charByNumber flags 2 true s
    | 'u' => charByNumber flags 4 false s
    | 'U' => charByNumber flags 8 false s
    | 'p' => propertyEscape flags false s
    | 'P' => propertyEscape flags true s
    | 'd' | 's' | 'w' => do return (← shorthand flags c false, s)
    | 'D' | 'S' | 'W' => do return (← shorthand flags c.toLower true, s)
    | 'a' => .ok (.literal '\x07' false, s)
    | 'f' => .ok (.literal '\x0c' false, s)
    | 't' => .ok (.literal '\t' false, s)
    | 'n' => .ok (.literal '\n' false, s)
    | 'r' => .ok (.literal '\r' false, s)
    | 'v' => .ok (.literal '\x0b' false, s)
    | 'A' => .ok (.look .textStart, s)
    | 'z' => .ok (.look .textEnd, s)
    | 'b' => wordBoundary flags s
    | 'B' => .ok (.look (.word .noBoundary flags.unicode), s)
    | '<' => .ok (.look (.word .start flags.unicode), s)
    | '>' => .ok (.look (.word .stop flags.unicode), s)
    | c =>
      if c.isDigit then .error .backreference
      else if isEscapable c then .ok (.literal c false, s)
      else .error .unknownEscape

end GnuLint
