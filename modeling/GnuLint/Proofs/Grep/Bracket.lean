import GnuLint.Grep.Perl
import GnuLint.Proofs.Grep.Dialect

/-!
# Bracket expressions in full

A bracket expression is a set of characters, written as members: single characters,
ranges, and classes. Perl patterns and extended patterns differ in what they take for a
member, and in what they make of a hyphen.

* In a Perl pattern a backslash escapes; the letters `d`, `w` and `s` after it stand for
  classes, and their capitals for the complements. A bracket and a colon begin a class only
  if a colon comes right before the next closing bracket, and otherwise are two characters.
* In an extended pattern a backslash is a character like any other. A bracket followed by a
  colon, a dot or an equals sign always begins a class, a collating symbol or a class of
  equivalents, which has to be closed. In the common locale, only single characters collate.
* Between two single characters a hyphen makes a range. Anywhere else a Perl pattern takes
  it for a hyphen, whereas an extended pattern does so only at the two ends of the
  expression.

How a translated pattern spells the classes of escapes is read by simpler rules
(`GnuLint.Grep.bracketExpression?`); here are those for whatever a bracket expression may
hold. What is read begins after the opening bracket.
-/

namespace GnuLint.Grep

/-! ### Members -/

/-- What a bracket expression is spelled with. -/
inductive Element
  /-- A single character, which a range may begin or end with. -/
  | single (c : Char)
  /-- A class of characters. -/
  | among (chars : Char → Bool)

/-- A member of a bracket expression. -/
inductive Member
  /-- A single character. -/
  | char (c : Char)
  /-- A range of characters. -/
  | range (first last : Char)
  /-- A class of characters. -/
  | among (chars : Char → Bool)

namespace Member

/-- Whether a character is in a member. -/
def holds : Member → Char → Bool
  | char c, x => x == c
  | range first last, x => first ≤ x && x ≤ last
  | among chars, x => chars x

/-- The character that a member begins with, unless it is a class. -/
def first? : Member → Option Char
  | char c => some c
  | range first _ => some first
  | among _ => none

/-- The character that a member ends with, unless it is a class. -/
def last? : Member → Option Char
  | char c => some c
  | range _ last => some last
  | among _ => none

end Member

/-- A bracket expression. -/
structure Bracket where
  /-- Whether it stands for the characters that are in no member. -/
  negated : Bool
  /-- The members. -/
  members : List Member

/-- **Whether a bracket expression stands for a character.** -/
def Bracket.holds (b : Bracket) (c : Char) : Bool := b.members.any (·.holds c) != b.negated

/-! ### Reading a bracket expression -/

/-- How bracket expressions are spelled. -/
structure BracketDialect where
  /-- The element that a text begins with, and what follows it. -/
  element? : Text → Option (Element × Text)
  /-- Whether a hyphen that makes no range has to be first or last. -/
  isStrict : Bool

/-- Whether a text begins with a hyphen that is not the last member. -/
def hasHyphenInside (s : Text) : Bool :=
  match s with
  | '-' :: t => t.head? != some ']'
  | _ => false

namespace BracketDialect

/-- The first member of a bracket expression, and what follows it. -/
def member? (d : BracketDialect) (s : Text) : Option (Member × Text) :=
  match d.element? s with
  | none => none
  | some (.among chars, rest) => some (.among chars, rest)
  | some (.single c, rest) =>
    if hasHyphenInside rest then
      match d.element? rest.tail with
      | none => none
      | some (.single e, rest') => if e < c then none else some (.range c e, rest')
      | some (.among _, _) => if d.isStrict then none else some (.char c, rest)
    else some (.char c, rest)

/-- The members of a bracket expression, and what follows its closing bracket; `first` says
whether the next member would be the first, which may be a closing bracket or a hyphen. The
bound counts members. -/
def members? (d : BracketDialect) : Nat → (first : Bool) → Text → Option (List Member × Text)
  | 0, _, _ => none
  | n + 1, first, s =>
    if s.head? = some ']' ∧ first = false then some ([], s.tail)
    else if d.isStrict ∧ hasHyphenInside s ∧ first = false then none
    else
      (d.member? s).bind fun found =>
        (d.members? n false found.2).map fun more => (found.1 :: more.1, more.2)

/-- **The bracket expression** that a text begins with, and what follows it. -/
def read? (d : BracketDialect) (s : Text) : Option (Bracket × Text) :=
  let negated := s.head? == some '^'
  let s := if negated then s.tail else s
  (d.members? (s.length + 1) true s).map fun found => (⟨negated, found.1⟩, found.2)

end BracketDialect

/-! ### The two dialects -/

/-- The name of a class, if its text up to the next closing bracket has a colon before that
bracket. -/
def closedName? (text : Text) : Option Text :=
  match text.reverse with
  | ']' :: ':' :: name => some name.reverse
  | _ => none

/-- The characters of a class of Perl patterns, by its name. -/
def perlClassName? (name : Text) : Option (Char → Bool) :=
  match name with
  | '^' :: name => (plainName? name).map fun chars c => !chars c
  | name => plainName? name
where
  /-- The characters of a class that is not negated. -/
  plainName? (name : Text) : Option (Char → Bool) :=
    if name = "word".toList then some isWord
    else if name = "ascii".toList then some fun c => c.toNat < 128
    else className? name

/-- The element that a backslash and a character stand for in a Perl pattern. -/
def perlBracketEscape? (c : Char) : Option Element :=
  match c with
  | 'd' => some (.among Char.isDigit)
  | 'D' => some (.among (!Char.isDigit ·))
  | 'w' => some (.among isWord)
  | 'W' => some (.among (!isWord ·))
  | 's' => some (.among isSpace)
  | 'S' => some (.among (!isSpace ·))
  | c => if c.isAlphanum then none else some (.single c)

/-- The first element in a bracket expression of a Perl pattern. -/
def perlElement? : Text → Option (Element × Text)
  | [] => none
  | '\\' :: s =>
    match s with
    | [] => none
    | c :: rest => (perlBracketEscape? c).map (·, rest)
  | '[' :: ':' :: s =>
    match closedName? (splitBracket s).1 with
    | some name => (perlClassName? name).map (.among ·, (splitBracket s).2)
    | none => some (.single '[', ':' :: s)
  | c :: s => some (.single c, s)

/-- The first element in a bracket expression of an extended pattern. -/
def extendedElement? : Text → Option (Element × Text)
  | [] => none
  | '[' :: ':' :: s =>
    (closedName? (splitBracket s).1).bind fun name =>
      (className? name).map (.among ·, (splitBracket s).2)
  | '[' :: '.' :: s =>
    match s with
    | c :: '.' :: ']' :: rest => some (.single c, rest)
    | _ => none
  | '[' :: '=' :: s =>
    match s with
    | c :: '=' :: ']' :: rest => some (.among (· == c), rest)
    | _ => none
  | c :: s => some (.single c, s)

namespace BracketDialect

/-- **Bracket expressions of Perl patterns.** -/
def perl : BracketDialect where
  element? := perlElement?
  isStrict := false

/-- **Bracket expressions of extended patterns.** -/
def extended : BracketDialect where
  element? := extendedElement?
  isStrict := true

end BracketDialect

end GnuLint.Grep
