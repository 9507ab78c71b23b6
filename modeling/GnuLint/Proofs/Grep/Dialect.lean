import GnuLint.Proofs.Grep.Expression

/-!
# Perl patterns and extended patterns

A dialect spells the symbols of a pattern: it says which symbol a text begins with, and
what follows it (`GnuLint.Grep.Dialect`). From that alone follow the expression that a
pattern stands for and what it matches.

The two dialects agree on the operators, on intervals, and on the characters that stand
for themselves. They differ in three ways.

* Perl patterns have escapes for digits, words and blanks
  (`GnuLint.Grep.perlEscape?`); in extended patterns a letter or a digit after a
  backslash means nothing.
* Extended patterns are read here with bracket expressions
  (`GnuLint.Grep.bracketExpression?`), as the common locale has them; Perl patterns
  without.
* A brace that opens no interval is a brace in a Perl pattern, and means nothing in an
  extended one.

A Perl pattern may have more to it – groups with extensions, quantifiers that are lazy or
possessive, other escapes –, and then it is not read at all.
-/

namespace GnuLint.Grep

/-! ### Dialects -/

/-- **A dialect**, by what it takes the beginning of a text for. -/
structure Dialect where
  /-- The symbol that a text begins with, and what follows it. -/
  next? : Text → Option (Symbol × Text)
  /-- A symbol is spelled with at least one character. -/
  follows {s rest : Text} {x : Symbol} : next? s = some (x, rest) →
    ∃ c t, s = c :: t ∧ rest <:+ t

namespace Dialect

variable {d : Dialect} {s rest : Text} {x : Symbol}

/-- The symbols of a text; the bound counts them. -/
def symbolsWithin? (d : Dialect) : Nat → Text → Option (List Symbol)
  | _, [] => some []
  | 0, _ :: _ => none
  | n + 1, c :: s =>
    (d.next? (c :: s)).bind fun found => (d.symbolsWithin? n found.2).map (found.1 :: ·)

/-- **The symbols of a pattern.** -/
def symbols? (d : Dialect) (p : Text) : Option (List Symbol) := d.symbolsWithin? p.length p

/-- **The expression that a pattern stands for.** -/
def read? (d : Dialect) (p : Text) : Option Expression := (d.symbols? p).bind readSymbols?

/-- **A pattern is well-formed**, as far as it has symbols. -/
def IsWellFormed (d : Dialect) (p : Text) : Prop :=
  ∀ σ, d.symbols? p = some σ → isWellFormed σ = true

instance (d : Dialect) (p : Text) : Decidable (d.IsWellFormed p) :=
  inferInstanceAs (Decidable (∀ σ, d.symbols? p = some σ → isWellFormed σ = true))

/-- **A pattern matches a text** between a text before it and a text after it. -/
def Matches (d : Dialect) (p before s after : Text) : Prop :=
  ∃ r, d.read? p = some r ∧ r.Matches before s after

/-- All bounds that a text does not exceed are as good as each other. -/
theorem symbolsWithin?_congr (d : Dialect) {n m : Nat} (hn : s.length ≤ n) (hm : s.length ≤ m) :
    d.symbolsWithin? n s = d.symbolsWithin? m s := by
  induction n generalizing m s with
  | zero =>
    obtain rfl : s = [] := List.length_eq_zero_iff.mp (Nat.le_zero.mp hn)
    cases m <;> rfl
  | succ n ih =>
    cases s with
    | nil => cases m <;> rfl
    | cons c s =>
      cases m with
      | zero => cases hm
      | succ m =>
        rw [symbolsWithin?, symbolsWithin?]
        refine Option.bind_congr fun ⟨x, rest⟩ hnext => ?_
        obtain ⟨_, t, ⟨⟩, hfollows⟩ := d.follows hnext
        have hle := hfollows.length_le
        rw [List.length_cons] at hn hm
        have hrest : d.symbolsWithin? n rest = d.symbolsWithin? m rest := ih (by omega) (by omega)
        exact congrArg (Option.map (x :: ·)) hrest

/-- **The symbols of a pattern** are its first one and those of what follows. -/
theorem symbols?_of_next? (h : d.next? s = some (x, rest)) :
    d.symbols? s = (d.symbols? rest).map (x :: ·) := by
  obtain ⟨c, t, rfl, hfollows⟩ := d.follows h
  rw [symbols?, List.length_cons, symbolsWithin?, h, Option.bind_some, symbols?,
    d.symbolsWithin?_congr hfollows.length_le (Nat.le_refl _)]

end Dialect

/-! ### What the dialects have in common -/

/-- The symbol of a character that stands for itself. -/
def plain (c : Char) : Symbol := .item (· == c)

/-- The symbol of a character that is an operator. A dot stands for any character that a
line may have in it. -/
def operator? (c : Char) : Option Symbol :=
  match c with
  | '.' => some (.item (· != '\n'))
  | '^' => some .lineStart
  | '$' => some .lineEnd
  | '(' => some .opening
  | ')' => some .closing
  | '|' => some .bar
  | '*' => some (.quantifier 0 none)
  | '+' => some (.quantifier 1 none)
  | '?' => some (.quantifier 0 (some 1))
  | _ => none

/-- The number that some digits write. -/
def value (digits : Text) : Nat :=
  digits.foldl (fun n c => 10 * n + (c.toNat - '0'.toNat)) 0

/-- The bounds of an interval, after its opening brace, and what follows it: a number; a
number and a comma; or two numbers with a comma between them. -/
def bounds? (s : Text) : Option ((Nat × Option Nat) × Text) :=
  let least := s.takeWhile Char.isDigit
  if least = [] then none
  else
    match s.dropWhile Char.isDigit with
    | '\x7d' :: rest => some ((value least, some (value least)), rest)
    | ',' :: t =>
      let most := t.takeWhile Char.isDigit
      match t.dropWhile Char.isDigit with
      | '\x7d' :: rest =>
        some ((value least, if most = [] then none else some (value most)), rest)
      | _ => none
    | _ => none

/-! ### Perl patterns -/

/-- Whether a character may stand in a word. -/
def isWord (c : Char) : Bool := c.isAlphanum || c == '_'

/-- Whether a character is a space, a tab or one of those that end a line or a page. -/
def isSpace (c : Char) : Bool := c == ' ' || ('\t' ≤ c && c ≤ '\r')

/-- The symbol of a character after a backslash. -/
def perlEscape? (c : Char) : Option Symbol :=
  match c with
  | 'd' => some (.item Char.isDigit)
  | 'D' => some (.item (!Char.isDigit ·))
  | 'w' => some (.item isWord)
  | 'W' => some (.item (!isWord ·))
  | 's' => some (.item isSpace)
  | 'S' => some (.item (!isSpace ·))
  | c => if c.isAlphanum then none else some (plain c)

/-- The symbol that a Perl pattern begins with, whatever follows it. -/
def perlSymbol? : Text → Option (Symbol × Text)
  | [] => none
  | '\\' :: s =>
    match s with
    | [] => none
    | c :: rest => (perlEscape? c).map (·, rest)
  | '[' :: _ => none
  | '\x7b' :: s =>
    match bounds? s with
    | some ((least, most), rest) => some (.quantifier least most, rest)
    | none => some (plain '\x7b', s)
  | c :: s => some ((operator? c).getD (plain c), s)

/-- Whether what follows a symbol makes something else of it: a group with an extension,
or a quantifier that is lazy or possessive. -/
def isModified : Symbol → Text → Bool
  | .opening, s => s.head? = some '?'
  | .quantifier _ _, s => s.head? = some '?' || s.head? = some '+'
  | _, _ => false

/-! ### Extended patterns -/

/-- The characters of a class, by its name. -/
def className? (name : Text) : Option (Char → Bool) :=
  match String.ofList name with
  | "alnum" => some Char.isAlphanum
  | "alpha" => some Char.isAlpha
  | "blank" => some fun c => c == ' ' || c == '\t'
  | "cntrl" => some fun c => c < ' ' || c == '\x7f'
  | "digit" => some Char.isDigit
  | "graph" => some fun c => '!' ≤ c && c ≤ '~'
  | "lower" => some Char.isLower
  | "print" => some fun c => ' ' ≤ c && c ≤ '~'
  | "punct" => some fun c => '!' ≤ c && c ≤ '~' && !c.isAlphanum
  | "space" => some isSpace
  | "upper" => some Char.isUpper
  | "xdigit" => some fun c => c.isDigit || ('a' ≤ c && c ≤ 'f') || ('A' ≤ c && c ≤ 'F')
  | _ => none

/-- The first member of a bracket expression and what follows it: a class, a range, or a
character. A hyphen right before the closing bracket is a character. Equivalents and
collating elements are not read. -/
def member? : Text → Option ((Char → Bool) × Text)
  | [] => none
  | '[' :: ':' :: s =>
    match s.dropWhile (· != ':') with
    | ':' :: ']' :: rest => (className? (s.takeWhile (· != ':'))).map (·, rest)
    | _ => none
  | '[' :: '=' :: _ | '[' :: '.' :: _ => none
  | c :: '-' :: stop :: rest =>
    if stop = ']' then some ((· == c), '-' :: stop :: rest)
    else if stop = '[' ∨ stop < c then none
    else some (fun x => c ≤ x && x ≤ stop, rest)
  | c :: s => some ((· == c), s)

/-- The members of a bracket expression and what follows its closing bracket; `first` says
whether the next member would be the first, which may be a closing bracket. The bound
counts members. -/
def members? : Nat → (first : Bool) → Text → Option (List (Char → Bool) × Text)
  | 0, _, _ => none
  | n + 1, first, s =>
    if s.head? = some ']' ∧ first = false then some ([], s.tail)
    else
      (member? s).bind fun found =>
        (members? n false found.2).map fun more => (found.1 :: more.1, more.2)

/-- A bracket expression, after its opening bracket, and what follows it. -/
def bracketExpression? (s : Text) : Option (Symbol × Text) :=
  let negated := s.head? == some '^'
  let s := if negated then s.tail else s
  (members? (s.length + 1) true s).map fun found =>
    (.item fun c => found.1.any (· c) != negated, found.2)

/-- The symbol that an extended pattern begins with. -/
def extendedSymbol? : Text → Option (Symbol × Text)
  | [] => none
  | '\\' :: s =>
    match s with
    | [] => none
    | c :: rest => if c.isAlphanum then none else some (plain c, rest)
  | '[' :: s => bracketExpression? s
  | '\x7b' :: s =>
    (bounds? s).map fun ((least, most), rest) => (.quantifier least most, rest)
  | c :: s => some ((operator? c).getD (plain c), s)

/-! ### What follows a symbol -/

variable {s rest : Text} {x : Symbol}

theorem suffix_of_bounds? {b : Nat × Option Nat} (h : bounds? s = some (b, rest)) :
    rest <:+ s := by
  have hs := List.dropWhile_suffix Char.isDigit (l := s)
  simp only [bounds?] at h
  split at h
  · cases h
  split at h
  · rename_i t ht
    obtain ⟨-, rfl⟩ := Prod.mk.inj (Option.some.inj h)
    exact (List.suffix_cons _ _).trans (ht ▸ hs)
  · rename_i t ht
    have ht' : t <:+ s := (List.suffix_cons _ _).trans (ht ▸ hs)
    split at h
    · rename_i u hu
      obtain ⟨-, rfl⟩ := Prod.mk.inj (Option.some.inj h)
      have hmore := List.dropWhile_suffix Char.isDigit (l := t)
      exact ((List.suffix_cons _ _).trans (hu ▸ hmore)).trans ht'
    · cases h
  · cases h

theorem follows_perlSymbol? (h : perlSymbol? s = some (x, rest)) :
    ∃ c t, s = c :: t ∧ rest <:+ t := by
  unfold perlSymbol? at h
  split at h
  · cases h
  · split at h
    · cases h
    · obtain ⟨_, -, hx⟩ := Option.map_eq_some_iff.mp h
      obtain ⟨-, rfl⟩ := Prod.mk.inj hx
      exact ⟨_, _, rfl, List.suffix_cons _ _⟩
  · cases h
  · split at h
    · rename_i hbounds
      obtain ⟨-, rfl⟩ := Prod.mk.inj (Option.some.inj h)
      exact ⟨_, _, rfl, suffix_of_bounds? hbounds⟩
    · obtain ⟨-, rfl⟩ := Prod.mk.inj (Option.some.inj h)
      exact ⟨_, _, rfl, List.suffix_refl _⟩
  · obtain ⟨-, rfl⟩ := Prod.mk.inj (Option.some.inj h)
    exact ⟨_, _, rfl, List.suffix_refl _⟩

theorem suffix_of_member? {chars : Char → Bool} (h : member? s = some (chars, rest)) :
    rest <:+ s := by
  unfold member? at h
  split at h
  · cases h
  · rename_i s
    have hs := List.dropWhile_suffix (· != ':') (l := s)
    split at h
    · rename_i t ht
      obtain ⟨_, -, hx⟩ := Option.map_eq_some_iff.mp h
      obtain ⟨-, rfl⟩ := Prod.mk.inj hx
      rw [ht] at hs
      refine List.IsSuffix.trans ?_ (hs.trans ?_)
      · exact List.suffix_append [':', ']'] t
      · exact List.suffix_append ['[', ':'] s
    · cases h
  · cases h
  · cases h
  · split at h
    · obtain ⟨-, rfl⟩ := Prod.mk.inj (Option.some.inj h)
      exact List.suffix_cons _ _
    · split at h
      · cases h
      · rename_i c stop rest' _ _
        obtain ⟨-, rfl⟩ := Prod.mk.inj (Option.some.inj h)
        exact List.suffix_append [c, '-', stop] rest'
  · obtain ⟨-, rfl⟩ := Prod.mk.inj (Option.some.inj h)
    exact List.suffix_cons _ _

theorem suffix_of_members? {n : Nat} {first : Bool} {chars : List (Char → Bool)}
    (h : members? n first s = some (chars, rest)) : rest <:+ s := by
  induction n generalizing first s chars rest with
  | zero => cases h
  | succ n ih =>
    rw [members?] at h
    split at h
    · obtain ⟨-, rfl⟩ := Prod.mk.inj (Option.some.inj h)
      exact List.tail_suffix s
    · obtain ⟨⟨c, t⟩, hfirst, hmore⟩ := Option.bind_eq_some_iff.mp h
      obtain ⟨⟨more, u⟩, hrest, hx⟩ := Option.map_eq_some_iff.mp hmore
      obtain ⟨-, rfl⟩ := Prod.mk.inj hx
      exact (ih hrest).trans (suffix_of_member? hfirst)

theorem suffix_of_bracketExpression? (h : bracketExpression? s = some (x, rest)) :
    rest <:+ s := by
  obtain ⟨⟨chars, t⟩, hmembers, hx⟩ := Option.map_eq_some_iff.mp h
  obtain ⟨-, rfl⟩ := Prod.mk.inj hx
  have hsuffix := suffix_of_members? hmembers
  split at hsuffix
  · exact hsuffix.trans (List.tail_suffix s)
  · exact hsuffix

theorem follows_extendedSymbol? (h : extendedSymbol? s = some (x, rest)) :
    ∃ c t, s = c :: t ∧ rest <:+ t := by
  unfold extendedSymbol? at h
  split at h
  · cases h
  · split at h
    · cases h
    · split at h
      · cases h
      · obtain ⟨-, rfl⟩ := Prod.mk.inj (Option.some.inj h)
        exact ⟨_, _, rfl, List.suffix_cons _ _⟩
  · exact ⟨_, _, rfl, suffix_of_bracketExpression? h⟩
  · obtain ⟨_, hbounds, hx⟩ := Option.map_eq_some_iff.mp h
    obtain ⟨-, rfl⟩ := Prod.mk.inj hx
    exact ⟨_, _, rfl, suffix_of_bounds? hbounds⟩
  · obtain ⟨-, rfl⟩ := Prod.mk.inj (Option.some.inj h)
    exact ⟨_, _, rfl, List.suffix_refl _⟩

/-! ### The two dialects -/

namespace Dialect

/-- **Perl patterns.** -/
def perl : Dialect where
  next? s := (perlSymbol? s).filter fun (x, rest) => !isModified x rest
  follows h := follows_perlSymbol? (Option.filter_eq_some_iff.mp h).1

/-- **Extended patterns.** -/
def extended : Dialect where
  next? := extendedSymbol?
  follows := follows_extendedSymbol?

end Dialect

end GnuLint.Grep
