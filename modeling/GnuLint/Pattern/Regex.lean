import GnuLint.Pattern.CharSet
import GnuLint.Unicode.Extra

/-!
# Regular expressions

The tree of a pattern, with every flag already spelled out: sets of characters,
conditions on the characters around a position, repetition, groups that remember
what they matched, sequence and choice. Choice and repetition are ordered – the
first branch is preferred, and a repetition prefers one more turn or one less – so a
tree says which of several matches is meant.
-/

namespace GnuLint

/-! ### Conditions on a position -/

/-- How a position lies with respect to words. -/
inductive WordEdge
  /-- Between a word character and another one, or an end of the text. -/
  | boundary
  /-- Not such a place. -/
  | noBoundary
  /-- Where a word begins. -/
  | start
  /-- Where a word ends. -/
  | stop
  /-- After no word character. -/
  | startHalf
  /-- Before no word character. -/
  | stopHalf
  deriving DecidableEq, Repr

/-- A condition on the characters before and after a position. -/
inductive Look
  /-- The start of the text. -/
  | textStart
  /-- The end of the text. -/
  | textEnd
  /-- The start of a line; a line may end in a carriage return and a newline. -/
  | lineStart (crlf : Bool)
  /-- The end of a line. -/
  | lineEnd (crlf : Bool)
  /-- A place with respect to words, in the sense of Unicode or of ASCII. -/
  | word (edge : WordEdge) (unicode : Bool)
  deriving DecidableEq, Repr

namespace Look

/-- Whether a character counts as part of a word. -/
def isWord (unicode : Bool) (c : Char) : Bool :=
  if unicode then Unicode.isWordChar c else c.isAlphanum || c == '_'

/-- **Whether a condition holds** between the character before a position and the one
after it, either of which is missing at an end of the text. -/
def holds (look : Look) (before after : Option Char) : Bool :=
  match look with
  | textStart => before.isNone
  | textEnd => after.isNone
  | lineStart false => before.all (· == '\n')
  | lineEnd false => after.all (· == '\n')
  | lineStart true =>
    before.all fun c => c == '\n' || (c == '\r' && after.all (· != '\n'))
  | lineEnd true =>
    after.all fun c => c == '\r' || (c == '\n' && before.all (· != '\r'))
  | word edge unicode =>
    let inside := before.any (isWord unicode)
    let ahead := after.any (isWord unicode)
    match edge with
    | .boundary => inside != ahead
    | .noBoundary => inside == ahead
    | .start => !inside && ahead
    | .stop => inside && !ahead
    | .startHalf => !inside
    | .stopHalf => !ahead

end Look

/-! ### Trees -/

/-- A regular expression. -/
inductive Regex
  /-- Matches the empty text. -/
  | empty
  /-- Matches one character of a set. -/
  | set (chars : CharSet)
  /-- Matches the empty text where a condition holds. -/
  | look (condition : Look)
  /-- Matches one expression and then another. -/
  | seq (first second : Regex)
  /-- Matches the first expression or, failing that, the second. -/
  | alt (first second : Regex)
  /-- Matches an expression a number of times, as often as possible if greedy and as
  rarely as possible if not. -/
  | repetition (least : Nat) (most : Option Nat) (greedy : Bool) (inner : Regex)
  /-- Matches an expression and remembers the match under a number. -/
  | group (index : Nat) (inner : Regex)

namespace Regex

/-- The sequence of several expressions. -/
def seqAll : List Regex → Regex
  | [] => empty
  | [r] => r
  | r :: rs => seq r (seqAll rs)

/-- The ordered choice between several expressions. -/
def altAll : List Regex → Regex
  | [] => empty
  | [r] => r
  | r :: rs => alt r (altAll rs)

/-- Whether an expression can match the empty text, conditions set aside. -/
def isNullable : Regex → Bool
  | empty => true
  | set _ => false
  | look _ => true
  | seq r s => r.isNullable && s.isNullable
  | alt r s => r.isNullable || s.isNullable
  | repetition least _ _ r => least == 0 || r.isNullable
  | group _ r => r.isNullable

/-- Whether an expression matches nothing but the empty text. -/
def isVoid : Regex → Bool
  | empty => true
  | set _ => false
  | look _ => true
  | seq r s => r.isVoid && s.isVoid
  | alt r s => r.isVoid && s.isVoid
  | repetition _ most _ r => most == some 0 || r.isVoid
  | group _ r => r.isVoid

/-- A repetition; an expression that matches nothing but the empty text is worth no
more than one turn. -/
def repeated (least : Nat) (most : Option Nat) (greedy : Bool) (r : Regex) : Regex :=
  if r.isVoid then repetition (min least 1) (some (min (most.getD 1) 1)) greedy r
  else repetition least most greedy r

/-! ### The size of an expression -/

/-- An estimate, in bytes, of the automaton of an expression with its repetitions
written out. -/
def weight : Regex → Nat
  | empty => 0
  | set chars =>
    match chars with
    | .range first last => if first == last then 32 * first.utf8Size else 72 + 32 * last.utf8Size
    | chars => if chars.isNarrow then 64 + 8 * chars.rangeCount else 300 + 60 * chars.rangeCount
  | look _ => 32
  | seq r s => r.weight + s.weight
  | alt r s => 64 + r.weight + s.weight
  | repetition least none _ r => 72 + (max least 1) * r.weight
  | repetition least (some most) _ r => 32 + (max least most) * (r.weight + 40)
  | group _ r => 64 + r.weight

/-- The largest automaton that is accepted. -/
def weightLimit : Nat := 10 * 1024 * 1024

end Regex

end GnuLint
