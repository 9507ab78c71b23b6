import GnuLint.Pattern.Parser
import GnuLint.Pattern.Search
import GnuLint.Pattern.Template

/-!
# Patterns

A pattern is a text that reads as a regular expression, together with what it reads as
and the program that searches for it. Both are determined by the text, so two patterns
are equal as soon as their texts are (`GnuLint.Pattern.ext_source`).

* `GnuLint.Pattern.ofString` – the pattern a text writes, or why it writes none;
* `GnuLint.Pattern.find?` – the first occurrence of a pattern in a text;
* `GnuLint.Pattern.replaceAll` – the text with every occurrence replaced.

An occurrence is given by the three parts of the text before, in and after it, which
make up the text whatever the pattern is (`GnuLint.Pattern.append_find?`).
-/

namespace GnuLint

/-- A text that reads as a regular expression. -/
structure Pattern where
  /-- The text of the pattern. -/
  source : String
  /-- What the text reads as. -/
  parsed : Regex.Parsed
  /-- The program that searches for the pattern. -/
  program : Program
  /-- The text reads as the tree. -/
  parse_source : Regex.parse source.toList = .ok parsed
  /-- The program is that of the tree. -/
  program_eq : program = Program.ofRegex parsed.regex

/-- The three parts of a text around an occurrence. -/
structure Occurrence where
  /-- The text before it. -/
  before : Text
  /-- The text in it. -/
  matched : Text
  /-- The text after it. -/
  after : Text
  deriving DecidableEq, Repr

namespace Pattern

/-- **The pattern that a text writes**, or why it writes none. -/
def ofString (source : String) : Except PatternError Pattern :=
  match h : Regex.parse source.toList with
  | .error e => .error e
  | .ok parsed => .ok ⟨source, parsed, _, h, rfl⟩

/-- Patterns with the same text are the same. -/
theorem ext_source {p q : Pattern} (h : p.source = q.source) : p = q := by
  obtain ⟨s, a, c, hs, hc⟩ := p
  obtain ⟨t, b, d, ht, hd⟩ := q
  obtain rfl : s = t := h
  obtain rfl : a = b := by
    rw [hs] at ht
    exact Except.ok.inj ht
  subst hc hd
  rfl

/-- Optional patterns with the same text are the same. -/
theorem ext_map_source {p q : Option Pattern} (h : p.map source = q.map source) : p = q :=
  Option.map_injective (fun _ _ => ext_source) h

instance : DecidableEq Pattern := fun p q =>
  if h : p.source = q.source then isTrue (ext_source h)
  else isFalse fun e => h (congrArg source e)

/-! ### Occurrences -/

/-- The part of a text between two counts of characters. -/
def slice (s : Text) (start stop : Nat) : Text := (s.drop start).take (stop - start)

/-- The first match in a text. -/
def hit? (p : Pattern) (s : Text) : Option Hit := p.program.search none 0 s

/-- Whether a pattern occurs in a text. -/
def isMatch (p : Pattern) (s : Text) : Bool := (p.hit? s).isSome

/-- The parts of a text around a match. -/
def occurrence (s : Text) (h : Hit) : Occurrence where
  before := s.take h.start
  matched := slice s h.start h.stop
  after := (s.drop h.start).drop (h.stop - h.start)

/-- **The first occurrence** of a pattern in a text. -/
def find? (p : Pattern) (s : Text) : Option Occurrence := (p.hit? s).map (occurrence s)

theorem append_occurrence (s : Text) (h : Hit) :
    (occurrence s h).before ++ (occurrence s h).matched ++ (occurrence s h).after = s := by
  rw [List.append_assoc]
  simp only [occurrence, slice, List.take_append_drop]

/-- An occurrence and the texts before and after it make up the text. -/
theorem append_find? {p : Pattern} {s : Text} {o : Occurrence} (h : p.find? s = some o) :
    o.before ++ o.matched ++ o.after = s := by
  obtain ⟨hit, _, rfl⟩ := Option.map_eq_some_iff.1 h
  exact append_occurrence s hit

theorem isMatch_eq_isSome_find? (p : Pattern) (s : Text) : p.isMatch s = (p.find? s).isSome := by
  simp [isMatch, find?]

/-! ### All matches and their replacement -/

/-- The matches in a text, one after the other: the character before the text, the
count of characters before it, and the end of the last match. A match of the empty
text right where the last one ended is passed over, and the search goes on one
character later. The bound counts matches. -/
def hitsWithin (p : Program) :
    Nat → (before : Option Char) → (position : Nat) → (last : Option Nat) → Text → List Hit
  | 0, _, _, _, _ => []
  | n + 1, before, position, last, s =>
    let first := p.search before position s
    let found :=
      match first with
      | some h =>
        if h.start == h.stop && last == some h.stop then
          match s with
          | [] => none
          | c :: s => p.search (some c) (position + 1) s
        else some h
      | none => none
    match found with
    | none => []
    | some h =>
      let taken := h.stop - position
      let before := ((s.take taken).getLast?).or before
      h :: hitsWithin p n before h.stop (some h.stop) (s.drop taken)

/-- The matches of a pattern in a text, one after the other. -/
def hits (p : Pattern) (s : Text) : List Hit :=
  hitsWithin p.program (s.length + 2) none 0 none s

/-- The text that a part of a template stands for at a match. -/
def groupText (p : Pattern) (s : Text) (h : Hit) (piece : TemplatePiece) : Text :=
  let index? := match piece with
    | .char _ => none
    | .number n => some n
    | .name name => p.parsed.names.lookup name
  match index?.bind h.group? with
  | some (start, stop) => slice s start stop
  | none => []

/-- The text from a position on, with some matches replaced. -/
def replaceFrom (p : Pattern) (s template : Text) : Nat → List Hit → Text
  | position, [] => s.drop position
  | position, h :: hs =>
    slice s position h.start ++
      (Template.expand (p.groupText s h) template ++ p.replaceFrom s template h.stop hs)

/-- **The text with every match of a pattern replaced** by a template. -/
def replaceAll (p : Pattern) (s template : Text) : Text :=
  p.replaceFrom s template 0 (p.hits s)

end Pattern

end GnuLint
