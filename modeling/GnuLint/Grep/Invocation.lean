import GnuLint.Fix.Rewrite
import GnuLint.Grep.Extended
import GnuLint.Text.Blank

/-!
# Calls of grep

A call of grep with a Perl pattern is the word `grep`, blanks, a cluster of flags with a
`P` in it, blanks, and a pattern between single or double quotes. The rewrite replaces the
last `P` of the cluster by an `E` and the pattern by its extended counterpart, and leaves
everything else as it is (`GnuLint.Grep.Invocation.spelling`).
-/

namespace GnuLint.Grep

/-! ### Reading a call -/

/-- A quoted pattern. -/
structure QuotedPattern where
  /-- The quote on either side. -/
  quote : Char
  /-- The pattern. -/
  pattern : Text
  deriving DecidableEq, Repr

/-- The parts of a call of grep with a Perl pattern. -/
structure Invocation where
  /-- The blanks after the word. -/
  blanks : Text
  /-- The flags before the last `P`. -/
  flagsBefore : Text
  /-- The flags after it. -/
  flagsAfter : Text
  /-- The blanks before the pattern. -/
  gap : Text
  /-- The pattern. -/
  quoted : QuotedPattern
  deriving DecidableEq, Repr

/-- A call as it is written, with a given flag for the kind of pattern and with a given
pattern. -/
def Invocation.spelling (call : Invocation) (flag : Char) (pattern : Text) : Text :=
  "grep".toList ++ call.blanks ++ '-' :: call.flagsBefore ++ flag :: call.flagsAfter ++
    call.gap ++ call.quoted.quote :: pattern ++ [call.quoted.quote]

/-- Some flags cut at the last `P` among them. -/
def splitFlags : Text → Option (Text × Text)
  | [] => none
  | c :: flags =>
    match splitFlags flags with
    | some (before, after) => some (c :: before, after)
    | none => if c = 'P' then some ([], flags) else none

/-- A quoted pattern at the beginning of a text, and what follows it. -/
def quotedPattern? (s : Text) : Option (QuotedPattern × Text) :=
  match s with
  | [] => none
  | q :: s =>
    if q = '\'' ∨ q = '"' then
      match s.dropWhile (· != q) with
      | _ :: rest => some (⟨q, s.takeWhile (· != q)⟩, rest)
      | [] => none
    else none

/-- A call of grep at the beginning of a text, and what follows it. -/
def invocation? (s : Text) : Option (Invocation × Text) := do
  let s ← Text.stripStart? s "grep".toList
  let blanks := s.takeWhile Text.isBlank
  let '-' :: s := s.dropWhile Text.isBlank | none
  let (flagsBefore, flagsAfter) ← splitFlags (s.takeWhile Char.isAlpha)
  let s := s.dropWhile Char.isAlpha
  let gap := s.takeWhile Text.isBlank
  let (quoted, rest) ← quotedPattern? (s.dropWhile Text.isBlank)
  if blanks.isEmpty ∨ gap.isEmpty then none
  else some (⟨blanks, flagsBefore, flagsAfter, gap, quoted⟩, rest)

/-- The first call of grep in a text, with the text before and after it. -/
def find? : Text → Option (Text × Invocation × Text)
  | [] => none
  | c :: s =>
    match invocation? (c :: s) with
    | some (call, after) => some ([], call, after)
    | none => (find? s).map fun (before, call, after) => (c :: before, call, after)

/-! ### Rewriting a call -/

/-- A text cut at a byte offset or, inside a character, after that character; `none` past
the end. -/
def cutFrom? : Text → Nat → Option (Text × Text)
  | s, 0 => some ([], s)
  | [], _ + 1 => none
  | c :: s, n + 1 =>
    (cutFrom? s (n + 1 - c.utf8Size)).map fun (before, after) => (c :: before, after)

/-- What a rewrite says if there is no call to rewrite. -/
def noCall : Text := "no quoted grep -P pattern found".toList

/-- **The rewrite of the first call of grep** from an offset on: the call with an extended
pattern, or the reason why its pattern has no counterpart. -/
def rewrite : Rewrite := fun line offset =>
  match cutFrom? line offset with
  | none => .error .offsetPastEnd
  | some (start, s) =>
    match find? s with
    | none => .ok (.declined noCall)
    | some (before, call, after) =>
      match toExtended call.quoted.pattern with
      | .error construct => .ok (.declined construct.message)
      | .ok pattern => .ok (.rewritten (start ++ before ++ call.spelling 'E' pattern ++ after))

end GnuLint.Grep

namespace GnuLint.Registry

/-- The name of the rewrite of calls of grep. -/
def grepName : String := "grep-perl-to-extended"

/-- **The rewrites that come with the program**: that of calls of grep, also under the
identifiers of the rules that use it. -/
def builtin : Registry :=
  [grepName, "grep-perl-regex", "grep-only-matching-P"].foldl
    (fun registry name => registry.insert name Grep.rewrite) empty

end GnuLint.Registry
