import GnuLint.Pattern.Basic
import GnuLint.Rule.Definition
import GnuLint.Rule.Severity
import GnuLint.Rule.Strategy
import GnuLint.Text.Blank

/-!
# Rules

A rule is a definition that has been checked: its patterns are compiled, its severity
and its strategy are known, and an empty optional text counts as absent. A definition
is checked field by field, and the first fault found is the one reported. Which texts
compile, and to what, is up to the function that compiles them
(`GnuLint.Rule.ofDefinitionWith`); the rules that scripts are checked with are compiled
by `GnuLint.Pattern.ofString` (`GnuLint.Rule.ofDefinition`).

Rules are compared field by field, and patterns by their text (`GnuLint.Rule.agrees`). A
pattern is determined by its text, so this decides equality.
-/

namespace GnuLint

/-- A checked rule, with its patterns compiled to values of a type. -/
structure Rule (P : Type := Pattern) where
  /-- The identifier, by which one rule overrides another. -/
  id : String
  /-- The title. -/
  name : String
  /-- What is wrong with what the rule finds. -/
  description : String
  /-- How much a finding matters. -/
  severity : Severity
  /-- The pattern searched for on a line. -/
  pattern : P
  /-- The pattern whose occurrence on the same line speaks against the finding. -/
  negativePattern : Option P
  /-- The pattern that the first line of a script has to match for the rule to apply. -/
  shebangMatch : Option P
  /-- What is done about a finding. -/
  strategy : Strategy
  /-- What a match is replaced by. -/
  template : Option String
  /-- Why a human has to see to it. -/
  rationale : Option String
  /-- The name of the rewrite. -/
  rewrite : Option String
  /-- Examples. -/
  examples : Option Examples
  /-- Keywords. -/
  tags : List String
  /-- Where to read more. -/
  references : List String

namespace Rule

/-! ### Comparing rules -/

/-- **Whether two rules say the same**, field by field. Patterns are compared by their text. -/
def agrees (r q : Rule) : Bool :=
  r.id == q.id && r.name == q.name && r.description == q.description &&
    r.severity == q.severity && r.pattern.source == q.pattern.source &&
    r.negativePattern.map Pattern.source == q.negativePattern.map Pattern.source &&
    r.shebangMatch.map Pattern.source == q.shebangMatch.map Pattern.source &&
    r.strategy == q.strategy && r.template == q.template && r.rationale == q.rationale &&
    r.rewrite == q.rewrite && r.examples == q.examples && r.tags == q.tags &&
    r.references == q.references

/-- Rules that say the same are the same. -/
theorem agrees_iff {r q : Rule} : r.agrees q = true ↔ r = q := by
  constructor
  · intro h
    simp only [agrees, Bool.and_eq_true, beq_iff_eq, and_assoc] at h
    obtain ⟨hid, hname, hdescription, hseverity, hpattern, hnegative, hshebang, hstrategy,
      htemplate, hrationale, hrewrite, hexamples, htags, hreferences⟩ := h
    cases r
    cases q
    rw [mk.injEq]
    exact ⟨hid, hname, hdescription, hseverity, Pattern.ext_source hpattern,
      Pattern.ext_map_source hnegative, Pattern.ext_map_source hshebang, hstrategy,
      htemplate, hrationale, hrewrite, hexamples, htags, hreferences⟩
  · rintro rfl
    simp [agrees]

instance : DecidableEq Rule := fun _ _ => decidable_of_iff _ agrees_iff

/-! ### Checking a definition -/

/-- An optional text, an empty one counting as absent. -/
def nonEmpty (s : Option String) : Option String := s.filter (· ≠ "")

/-- Whether a text is blank from end to end. -/
def isBlankText (s : String) : Bool := Text.isAllBlank s.toList

section Reading

variable {P ε : Type}

/-- Fails with a cause if a condition holds. -/
def refuseIf (condition : Bool) (cause : DefinitionError ε) : Except (DefinitionError ε) Unit :=
  if condition then .error cause else .ok ()

/-- The pattern of a field. -/
def readPattern (compile : String → Except ε P) (field : DefinitionField) (source : String) :
    Except (DefinitionError ε) P :=
  (compile source).mapError (.invalidPattern field source)

/-- The pattern of an optional field. -/
def readPattern? (compile : String → Except ε P) (field : DefinitionField)
    (source : Option String) : Except (DefinitionError ε) (Option P) :=
  match nonEmpty source with
  | none => .ok none
  | some s => (readPattern compile field s).map some

/-- The severity that a definition names, or the one of a rule that names none. -/
def readSeverity (name : Option String) : Except (DefinitionError ε) Severity :=
  match nonEmpty name with
  | none => .ok .fallback
  | some s => (Severity.ofName? s).elim (.error (.unknownSeverity s)) .ok

/-- The strategy that a definition names, or the one of a rule that names none. -/
def readStrategy (name : Option String) : Except (DefinitionError ε) Strategy :=
  match nonEmpty name with
  | none => .ok .fallback
  | some s => (Strategy.ofName? s).elim (.error (.unknownStrategy s)) .ok

/-- **The rule of a definition**, with its patterns compiled, or the first fault in it. -/
def ofDefinitionWith (compile : String → Except ε P) (d : Definition) :
    Except (DefinitionError ε) (Rule P) := do
  refuseIf (isBlankText d.id) (.missingField .id)
  refuseIf (isBlankText d.name) (.missingField .name)
  refuseIf (d.pattern == "") (.missingField .pattern)
  let pattern ← readPattern compile .pattern d.pattern
  let negativePattern ← readPattern? compile .negativePattern d.negativePattern
  let shebangMatch ← readPattern? compile .shebangMatch d.shebangMatch
  let severity ← readSeverity d.severity
  let strategy ← readStrategy d.strategy
  return {
    id := d.id
    name := d.name
    description := d.description
    severity
    pattern
    negativePattern
    shebangMatch
    strategy
    template := nonEmpty d.template
    rationale := nonEmpty d.rationale
    rewrite := nonEmpty d.rewrite
    examples := d.examples
    tags := d.tags
    references := d.references }

end Reading

/-- **The rule of a definition** that scripts are checked with, or the first fault in it. -/
def ofDefinition (d : Definition) : Except DefinitionError Rule :=
  ofDefinitionWith Pattern.ofString d

/-! ### Where a rule applies -/

/-- Whether a rule looks at comment lines: only rules whose pattern begins with a number
sign at the start of the line do. -/
def targetsComments (r : Rule) : Bool := r.pattern.source.toList.take 2 == ['^', '#']

/-- The name of the rewrite that a rule calls for: its own identifier unless it names
another one. -/
def rewriteName (r : Rule) : String := r.rewrite.getD r.id

/-- **Whether a rule applies** to a script with a given first line, if it has one. -/
def isActiveFor (r : Rule) (firstLine : Option Text) : Bool :=
  match r.shebangMatch, firstLine with
  | none, _ => true
  | some p, some line => p.isMatch line
  | some _, none => false

end Rule

end GnuLint
