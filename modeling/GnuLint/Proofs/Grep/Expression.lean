import GnuLint.Text.Basic
import GnuLint.Proofs.Except

/-!
# Expressions that patterns stand for

Perl patterns and extended patterns spell the same operators differently: groups,
alternatives, repetitions and the two anchors. What they have in common is told here, once
for both: an expression (`GnuLint.Grep.Expression`), what it matches where
(`GnuLint.Grep.Expression.Matches`), and how it is read from a sequence of symbols
(`GnuLint.Grep.readSymbols?`). How a dialect spells its symbols is a matter of its own.

Symbols are read from left to right. Groups nest, so there is a stack of the groups still
open, each with the alternatives before, the branch being read, and the last part of it,
which a quantifier would repeat. There is an expression to be read exactly if parentheses
are balanced and each quantifier follows something
(`GnuLint.Grep.isSome_readSymbols?`).
-/

namespace GnuLint.Grep

/-! ### Expressions and what they match -/

/-- An expression over characters. -/
inductive Expression
  /-- Nothing at all. -/
  | empty
  /-- One character out of some. -/
  | item (chars : Char → Bool)
  /-- The start of the line. -/
  | lineStart
  /-- The end of the line. -/
  | lineEnd
  /-- One expression after the other. -/
  | seq (r r' : Expression)
  /-- One expression or the other. -/
  | alt (r r' : Expression)
  /-- An expression so many times, perhaps without an upper bound. -/
  | repetition (r : Expression) (least : Nat) (most : Option Nat)

/-- Something is matched a number of times, one after the other. -/
def Iterates (M : Text → Text → Text → Prop) : Nat → Text → Text → Text → Prop
  | 0, _, s, _ => s = []
  | n + 1, before, s, after =>
    ∃ t u, s = t ++ u ∧ M before t (u ++ after) ∧ Iterates M n (before ++ t) u after

/-- **An expression matches a text** between a text before it and a text after it. -/
def Expression.Matches : Expression → (before s after : Text) → Prop
  | empty, _, s, _ => s = []
  | item chars, _, s, _ => ∃ c, s = [c] ∧ chars c = true
  | lineStart, before, s, _ => before = [] ∧ s = []
  | lineEnd, _, s, after => s = [] ∧ after = []
  | seq r r', before, s, after =>
    ∃ t u, s = t ++ u ∧ r.Matches before t (u ++ after) ∧ r'.Matches (before ++ t) u after
  | alt r r', before, s, after => r.Matches before s after ∨ r'.Matches before s after
  | repetition r least most, before, s, after =>
    ∃ n, least ≤ n ∧ (∀ m, most = some m → n ≤ m) ∧ Iterates r.Matches n before s after

/-! ### Symbols -/

/-- A symbol of a pattern, in whatever dialect. -/
inductive Symbol
  /-- One character out of some. -/
  | item (chars : Char → Bool)
  /-- The start of the line. -/
  | lineStart
  /-- The end of the line. -/
  | lineEnd
  /-- The beginning of a group. -/
  | opening
  /-- The end of a group. -/
  | closing
  /-- What separates alternatives. -/
  | bar
  /-- How often what comes before is repeated. -/
  | quantifier (least : Nat) (most : Option Nat)

/-- Whether some symbols, the rest of a pattern, go well with what comes before: `depth`
groups are still open there, and `repeatable` says whether there is something that a
quantifier can repeat. -/
def isWellFormedFrom (depth : Nat) (repeatable : Bool) : List Symbol → Bool
  | [] => depth == 0
  | x :: σ =>
    match x with
    | .item _ | .lineStart | .lineEnd => isWellFormedFrom depth true σ
    | .opening => isWellFormedFrom (depth + 1) false σ
    | .closing => 0 < depth && isWellFormedFrom (depth - 1) true σ
    | .bar => isWellFormedFrom depth false σ
    | .quantifier _ _ => repeatable && isWellFormedFrom depth true σ

/-- **Whether a pattern is well-formed**: its parentheses are balanced, and each of its
quantifiers follows an item, a group or a quantifier. -/
def isWellFormed (σ : List Symbol) : Bool := isWellFormedFrom 0 false σ

/-! ### Reading symbols -/

/-- A group that is still open, or the pattern as a whole. -/
structure Level where
  /-- The alternatives before the last bar, if there is one. -/
  alternatives : Option Expression
  /-- The branch being read, without its last part. -/
  front : Expression
  /-- The last part of the branch. -/
  last : Option Expression

namespace Level

/-- A group at its beginning. -/
def start : Level := ⟨none, .empty, none⟩

/-- The branch being read. -/
def branch (l : Level) : Expression := l.last.elim l.front (.seq l.front)

/-- What was read of the group. -/
def whole (l : Level) : Expression := l.alternatives.elim l.branch (.alt · l.branch)

/-- The group with one more part. -/
def push (l : Level) (r : Expression) : Level := ⟨l.alternatives, l.branch, some r⟩

/-- The group with the last part repeated, if there is one. -/
def repeatLast? (l : Level) (least : Nat) (most : Option Nat) : Option Level :=
  l.last.map fun r => ⟨l.alternatives, l.front, some (.repetition r least most)⟩

end Level

/-- The expression that some symbols stand for, the rest of a pattern, after what was read
of the groups still open, the innermost one first. -/
def readFrom? (l : Level) (outer : List Level) : List Symbol → Option Expression
  | [] => if outer.isEmpty then some l.whole else none
  | x :: σ =>
    match x with
    | .item chars => readFrom? (l.push (.item chars)) outer σ
    | .lineStart => readFrom? (l.push .lineStart) outer σ
    | .lineEnd => readFrom? (l.push .lineEnd) outer σ
    | .opening => readFrom? .start (l :: outer) σ
    | .closing =>
      match outer with
      | [] => none
      | o :: outer => readFrom? (o.push l.whole) outer σ
    | .bar => readFrom? ⟨some l.whole, .empty, none⟩ outer σ
    | .quantifier least most =>
      match l.repeatLast? least most with
      | none => none
      | some l => readFrom? l outer σ

/-- **The expression that some symbols stand for**, if they are well-formed. -/
def readSymbols? (σ : List Symbol) : Option Expression := readFrom? .start [] σ

theorem isSome_readFrom? (l : Level) (outer : List Level) (σ : List Symbol) :
    (readFrom? l outer σ).isSome = isWellFormedFrom outer.length l.last.isSome σ := by
  induction σ generalizing l outer with
  | nil => cases outer <;> rfl
  | cons x σ ih =>
    cases x with
    | item chars => exact ih (l.push (.item chars)) outer
    | lineStart => exact ih (l.push .lineStart) outer
    | lineEnd => exact ih (l.push .lineEnd) outer
    | opening => exact ih .start (l :: outer)
    | closing =>
      cases outer with
      | nil => rfl
      | cons o outer =>
        simpa [readFrom?, isWellFormedFrom, Level.push] using ih (o.push l.whole) outer
    | bar => exact ih ⟨some l.whole, .empty, none⟩ outer
    | quantifier least most =>
      -- only a quantifier looks at what was read before it
      cases hlast : l.last with
      | none => simp [readFrom?, Level.repeatLast?, hlast, isWellFormedFrom]
      | some r =>
        have hrest := ih ⟨l.alternatives, l.front, some (.repetition r least most)⟩ outer
        simpa [readFrom?, Level.repeatLast?, hlast, isWellFormedFrom] using hrest

/-- **Some symbols stand for an expression exactly if they are well-formed.** -/
theorem isSome_readSymbols? (σ : List Symbol) : (readSymbols? σ).isSome = isWellFormed σ :=
  isSome_readFrom? .start [] σ

/-- A quantifier binds more closely than a sequence, and a sequence than a bar. -/
example (p q : Char → Bool) :
    readSymbols? [.item p, .bar, .item p, .item q, .quantifier 1 none] =
      some (.alt (.seq .empty (.item p))
        (.seq (.seq .empty (.item p)) (.repetition (.item q) 1 none))) :=
  rfl

end GnuLint.Grep
