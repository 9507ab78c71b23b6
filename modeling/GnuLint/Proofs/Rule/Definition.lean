import GnuLint.Proofs.Except
import GnuLint.Proofs.Text.Blank
import GnuLint.Rule.Basic

/-!
# Definitions and their rules

A definition goes through eight checks, one after the other (`GnuLint.Check`). Each check looks
at one field, and what it takes for the field to violate it does not depend on the other checks
(`GnuLint.Definition.Violates`). A definition that violates none of them is valid
(`GnuLint.Definition.IsValid`), and exactly the valid definitions make rules, which say what is
written down (`GnuLint.Rule.ofDefinitionWith_eq_ok_iff`). However many checks another definition
violates, it is refused for the first one (`GnuLint.Rule.ofDefinitionWith_eq_error_iff`).

Three of the checks ask whether a text compiles. What the function that compiles it accepts, what
it makes of it, and how it explains a refusal is left open: all of this holds of any function. Of
`GnuLint.Pattern.ofString` more is known, since a pattern has the text that it was compiled from.
-/

namespace GnuLint

variable {P ε : Type} {compile : String → Except ε P}

/-! ### Checks -/

/-- The checks that a definition goes through. -/
inductive Check
  /-- There is an identifier. -/
  | id
  /-- There is a title. -/
  | name
  /-- There is a text to search for. -/
  | patternPresent
  /-- It is a pattern. -/
  | pattern
  /-- What speaks against a finding is a pattern. -/
  | negativePattern
  /-- What the first line has to match is a pattern. -/
  | shebangMatch
  /-- The severity is known. -/
  | severity
  /-- The strategy is known. -/
  | strategy
  deriving DecidableEq, Repr

/-- **The checks in the order in which they are made.** -/
def Check.all : List Check :=
  [id, name, patternPresent, pattern, negativePattern, shebangMatch, severity, strategy]

theorem Check.mem_all (c : Check) : c ∈ all := by
  cases c <;> decide

namespace Definition

variable {d : Definition} {c : Check} {e : DefinitionError ε}

/-- **A definition violates a check**, for a cause. An optional field that is empty violates
nothing. -/
inductive Violates (d : Definition) (compile : String → Except ε P) :
    Check → DefinitionError ε → Prop
  | id : Text.trim d.id.toList = [] → Violates d compile .id (.missingField .id)
  | name : Text.trim d.name.toList = [] → Violates d compile .name (.missingField .name)
  | patternPresent : d.pattern = "" →
    Violates d compile .patternPresent (.missingField .pattern)
  | pattern {cause : ε} : compile d.pattern = .error cause →
    Violates d compile .pattern (.invalidPattern .pattern d.pattern cause)
  | negativePattern {s : String} {cause : ε} : d.negativePattern = some s → s ≠ "" →
    compile s = .error cause →
    Violates d compile .negativePattern (.invalidPattern .negativePattern s cause)
  | shebangMatch {s : String} {cause : ε} : d.shebangMatch = some s → s ≠ "" →
    compile s = .error cause →
    Violates d compile .shebangMatch (.invalidPattern .shebangMatch s cause)
  | severity {s : String} : d.severity = some s → s ≠ "" → (∀ v : Severity, s ≠ v.name) →
    Violates d compile .severity (.unknownSeverity s)
  | strategy {s : String} : d.strategy = some s → s ≠ "" → (∀ v : Strategy, s ≠ v.name) →
    Violates d compile .strategy (.unknownStrategy s)

/-- **A definition is valid**: what every rule needs is there, and every text that is there
writes what its field is for. -/
structure IsValid (d : Definition) (compile : String → Except ε P) : Prop where
  id : Text.trim d.id.toList ≠ []
  name : Text.trim d.name.toList ≠ []
  patternPresent : d.pattern ≠ ""
  pattern : ∃ p, compile d.pattern = .ok p
  negativePattern {s : String} : d.negativePattern = some s → s ≠ "" → ∃ p, compile s = .ok p
  shebangMatch {s : String} : d.shebangMatch = some s → s ≠ "" → ∃ p, compile s = .ok p
  severity {s : String} : d.severity = some s → s ≠ "" → ∃ v : Severity, s = v.name
  strategy {s : String} : d.strategy = some s → s ≠ "" → ∃ v : Strategy, s = v.name

/-- **The first violated check** of a definition has a cause. -/
def FirstViolation (d : Definition) (compile : String → Except ε P) (c : Check)
    (cause : DefinitionError ε) : Prop :=
  d.Violates compile c cause ∧ ∃ before after, Check.all = before ++ c :: after ∧
    ∀ b ∈ before, ∀ e, ¬d.Violates compile b e

/-- **A definition is valid exactly if it violates no check.** -/
theorem isValid_iff : d.IsValid compile ↔ ∀ c e, ¬d.Violates compile c e := by
  constructor
  · intro hvalid c e h
    cases h with
    | id h => exact hvalid.id h
    | name h => exact hvalid.name h
    | patternPresent h => exact hvalid.patternPresent h
    | pattern h => exact exists_ok_iff.mp hvalid.pattern _ h
    | negativePattern hs hne h => exact exists_ok_iff.mp (hvalid.negativePattern hs hne) _ h
    | shebangMatch hs hne h => exact exists_ok_iff.mp (hvalid.shebangMatch hs hne) _ h
    | severity hs hne h =>
      obtain ⟨v, hv⟩ := hvalid.severity hs hne
      exact h v hv
    | strategy hs hne h =>
      obtain ⟨v, hv⟩ := hvalid.strategy hs hne
      exact h v hv
  · intro h
    exact {
      id := fun hid => h _ _ (.id hid)
      name := fun hname => h _ _ (.name hname)
      patternPresent := fun hpattern => h _ _ (.patternPresent hpattern)
      pattern := exists_ok_iff.mpr fun _ hcause => h _ _ (.pattern hcause)
      negativePattern := fun hs hne =>
        exists_ok_iff.mpr fun _ hcause => h _ _ (.negativePattern hs hne hcause)
      shebangMatch := fun hs hne =>
        exists_ok_iff.mpr fun _ hcause => h _ _ (.shebangMatch hs hne hcause)
      severity := fun hs hne =>
        Classical.byContradiction fun hnone =>
          h _ _ (.severity hs hne fun v hv => hnone ⟨v, hv⟩)
      strategy := fun hs hne =>
        Classical.byContradiction fun hnone =>
          h _ _ (.strategy hs hne fun v hv => hnone ⟨v, hv⟩) }

end Definition

/-! ### Checks one by one -/

theorem Severity.name_injective : Function.Injective name :=
  Function.LeftInverse.injective (g := fun s => (ofName? s).getD fallback) fun s => by simp

theorem Strategy.name_injective : Function.Injective name :=
  Function.LeftInverse.injective (g := fun s => (ofName? s).getD fallback) fun s => by simp

namespace Rule

theorem isBlankText_iff {s : String} : isBlankText s = true ↔ Text.trim s.toList = [] :=
  Text.trim_eq_nil_iff.symm

theorem nonEmpty_eq_some_iff {o : Option String} {s : String} :
    nonEmpty o = some s ↔ o = some s ∧ s ≠ "" := by
  simp [nonEmpty, Option.filter_eq_some_iff]

theorem refuseIf_eq_error_iff {condition : Bool} {cause e : DefinitionError ε} :
    refuseIf condition cause = .error e ↔ condition = true ∧ e = cause := by
  cases condition <;> simp [refuseIf, eq_comm]

/-! #### Patterns -/

section Patterns

variable {field : DefinitionField} {e : DefinitionError ε}

theorem readPattern_eq_ok_iff {source : String} {p : P} :
    readPattern compile field source = .ok p ↔ compile source = .ok p := by
  rw [readPattern]
  cases compile source <;> simp [Except.mapError]

theorem readPattern_eq_error_iff {source : String} :
    readPattern compile field source = .error e ↔
      ∃ cause, compile source = .error cause ∧ e = .invalidPattern field source cause := by
  rw [readPattern]
  cases compile source <;> simp [Except.mapError, eq_comm]

/-- An optional field is read if it is not empty. -/
theorem readPattern?_eq_ok_iff {source : Option String} {p : Option P} :
    readPattern? compile field source = .ok p ↔ (nonEmpty source).mapM compile = .ok p := by
  rw [readPattern?]
  cases nonEmpty source with
  | none => simp [pure, Except.pure]
  | some s =>
    rw [map_eq_ok_iff]
    simp only [readPattern_eq_ok_iff]
    exact map_eq_ok_iff.symm

theorem readPattern?_eq_error_iff {source : Option String} :
    readPattern? compile field source = .error e ↔
      ∃ s, (source = some s ∧ s ≠ "") ∧ readPattern compile field s = .error e := by
  simp only [← nonEmpty_eq_some_iff]
  rw [readPattern?]
  cases nonEmpty source with
  | none => simp
  | some s => simp [map_eq_error_iff]

end Patterns

/-! #### Names -/

section Names

variable {name : Option String} {e : DefinitionError ε}

theorem elim_eq_ok_iff {α : Type} {o : Option α} {v : α} :
    o.elim (.error e) .ok = Except.ok v ↔ o = some v := by
  cases o <;> simp

/-- A name is unknown if it names nothing. -/
theorem elim_eq_error_iff {α : Type} {o : Option α} {cause : DefinitionError ε} :
    o.elim (.error cause) .ok = Except.error (α := α) e ↔ (∀ v, o ≠ some v) ∧ e = cause := by
  cases o <;> simp [eq_comm]

/-- What is read is the severity of the name, an empty or missing one being the usual one. -/
theorem readSeverity_eq_ok_iff {v : Severity} :
    readSeverity (ε := ε) name = .ok v ↔ v.name = (nonEmpty name).getD Severity.fallback.name := by
  rw [readSeverity]
  cases nonEmpty name with
  | none =>
    rw [Except.ok.injEq, Option.getD_none, eq_comm]
    exact Severity.name_injective.eq_iff.symm
  | some s =>
    rw [Option.getD_some, elim_eq_ok_iff, eq_comm (a := v.name)]
    exact Severity.ofName?_eq_some_iff

/-- What is read is the strategy of the name, an empty or missing one being the usual one. -/
theorem readStrategy_eq_ok_iff {v : Strategy} :
    readStrategy (ε := ε) name = .ok v ↔ v.name = (nonEmpty name).getD Strategy.fallback.name := by
  rw [readStrategy]
  cases nonEmpty name with
  | none =>
    rw [Except.ok.injEq, Option.getD_none, eq_comm]
    exact Strategy.name_injective.eq_iff.symm
  | some s =>
    rw [Option.getD_some, elim_eq_ok_iff, eq_comm (a := v.name)]
    exact Strategy.ofName?_eq_some_iff

theorem readSeverity_eq_error_iff :
    readSeverity name = .error e ↔
      ∃ s, (name = some s ∧ s ≠ "") ∧ (∀ v : Severity, s ≠ v.name) ∧ e = .unknownSeverity s := by
  simp only [← nonEmpty_eq_some_iff, ne_eq, ← Severity.ofName?_eq_some_iff]
  rw [readSeverity]
  cases nonEmpty name with
  | none => simp
  | some s => simp [elim_eq_error_iff]

theorem readStrategy_eq_error_iff :
    readStrategy name = .error e ↔
      ∃ s, (name = some s ∧ s ≠ "") ∧ (∀ v : Strategy, s ≠ v.name) ∧ e = .unknownStrategy s := by
  simp only [← nonEmpty_eq_some_iff, ne_eq, ← Strategy.ofName?_eq_some_iff]
  rw [readStrategy]
  cases nonEmpty name with
  | none => simp
  | some s => simp [elim_eq_error_iff]

end Names

end Rule

namespace Definition

variable {d : Definition} {c : Check} {e : DefinitionError ε}

/-- The fault that a check finds, whatever the other checks find. -/
def fault? (d : Definition) (compile : String → Except ε P) :
    Check → Option (DefinitionError ε)
  | .id => failure? (Rule.refuseIf (Rule.isBlankText d.id) (.missingField .id))
  | .name => failure? (Rule.refuseIf (Rule.isBlankText d.name) (.missingField .name))
  | .patternPresent => failure? (Rule.refuseIf (d.pattern == "") (.missingField .pattern))
  | .pattern => failure? (Rule.readPattern compile .pattern d.pattern)
  | .negativePattern => failure? (Rule.readPattern? compile .negativePattern d.negativePattern)
  | .shebangMatch => failure? (Rule.readPattern? compile .shebangMatch d.shebangMatch)
  | .severity => failure? (Rule.readSeverity d.severity)
  | .strategy => failure? (Rule.readStrategy d.strategy)

/-- **A check finds a fault exactly if the definition violates it.** -/
theorem fault?_eq_some_iff : d.fault? compile c = some e ↔ d.Violates compile c e := by
  cases c with
  | id =>
    rw [fault?, failure?_eq_some_iff, Rule.refuseIf_eq_error_iff, Rule.isBlankText_iff]
    constructor
    · rintro ⟨h, rfl⟩
      exact .id h
    · intro hviolates
      cases hviolates with
      | id h => exact ⟨h, rfl⟩
  | name =>
    rw [fault?, failure?_eq_some_iff, Rule.refuseIf_eq_error_iff, Rule.isBlankText_iff]
    constructor
    · rintro ⟨h, rfl⟩
      exact .name h
    · intro hviolates
      cases hviolates with
      | name h => exact ⟨h, rfl⟩
  | patternPresent =>
    rw [fault?, failure?_eq_some_iff, Rule.refuseIf_eq_error_iff, beq_iff_eq]
    constructor
    · rintro ⟨h, rfl⟩
      exact .patternPresent h
    · intro hviolates
      cases hviolates with
      | patternPresent h => exact ⟨h, rfl⟩
  | pattern =>
    rw [fault?, failure?_eq_some_iff, Rule.readPattern_eq_error_iff]
    constructor
    · rintro ⟨cause, h, rfl⟩
      exact .pattern h
    · intro hviolates
      cases hviolates with
      | pattern h => exact ⟨_, h, rfl⟩
  | negativePattern =>
    rw [fault?, failure?_eq_some_iff, Rule.readPattern?_eq_error_iff]
    simp only [Rule.readPattern_eq_error_iff]
    constructor
    · rintro ⟨s, ⟨hs, hne⟩, cause, h, rfl⟩
      exact .negativePattern hs hne h
    · intro hviolates
      cases hviolates with
      | negativePattern hs hne h => exact ⟨_, ⟨hs, hne⟩, _, h, rfl⟩
  | shebangMatch =>
    rw [fault?, failure?_eq_some_iff, Rule.readPattern?_eq_error_iff]
    simp only [Rule.readPattern_eq_error_iff]
    constructor
    · rintro ⟨s, ⟨hs, hne⟩, cause, h, rfl⟩
      exact .shebangMatch hs hne h
    · intro hviolates
      cases hviolates with
      | shebangMatch hs hne h => exact ⟨_, ⟨hs, hne⟩, _, h, rfl⟩
  | severity =>
    rw [fault?, failure?_eq_some_iff, Rule.readSeverity_eq_error_iff]
    constructor
    · rintro ⟨s, ⟨hs, hne⟩, h, rfl⟩
      exact .severity hs hne h
    · intro hviolates
      cases hviolates with
      | severity hs hne h => exact ⟨_, ⟨hs, hne⟩, h, rfl⟩
  | strategy =>
    rw [fault?, failure?_eq_some_iff, Rule.readStrategy_eq_error_iff]
    constructor
    · rintro ⟨s, ⟨hs, hne⟩, h, rfl⟩
      exact .strategy hs hne h
    · intro hviolates
      cases hviolates with
      | strategy hs hne h => exact ⟨_, ⟨hs, hne⟩, h, rfl⟩

theorem fault?_eq_none_iff : d.fault? compile c = none ↔ ∀ e, ¬d.Violates compile c e := by
  simp only [← fault?_eq_some_iff, Option.eq_none_iff_forall_not_mem, Option.mem_def]

theorem isValid_iff_fault? : d.IsValid compile ↔ ∀ c ∈ Check.all, d.fault? compile c = none := by
  rw [isValid_iff]
  simp only [fault?_eq_none_iff]
  exact ⟨fun h c _ => h c, fun h c => h c c.mem_all⟩

instance (d : Definition) (compile : String → Except ε P) : Decidable (d.IsValid compile) :=
  decidable_of_iff' _ isValid_iff_fault?

end Definition

namespace Rule

variable {d : Definition} {r r' : Rule P} {e : DefinitionError ε}

theorem findSome?_cons_or {α β : Type} (f : α → Option β) (a : α) (l : List α) :
    (a :: l).findSome? f = (f a).or (l.findSome? f) := by
  rw [List.findSome?_cons]
  cases f a <;> rfl

/-- **A definition fails as its checks do**, in their order. -/
theorem failure?_ofDefinitionWith (compile : String → Except ε P) (d : Definition) :
    failure? (ofDefinitionWith compile d) = Check.all.findSome? (d.fault? compile) := by
  rw [Check.all]
  -- every step of the chain is the first one of the checks that are left
  iterate 8
    rw [findSome?_cons_or]
    refine failure?_bind fun _ => ?_
  rfl

/-- **A definition is refused for the first check that it violates.** -/
theorem ofDefinitionWith_eq_error_iff :
    ofDefinitionWith compile d = .error e ↔ ∃ c, d.FirstViolation compile c e := by
  rw [← failure?_eq_some_iff, failure?_ofDefinitionWith, List.findSome?_eq_some_iff]
  simp only [Definition.fault?_eq_some_iff, Definition.fault?_eq_none_iff]
  constructor
  · rintro ⟨before, c, after, hall, hc, hbefore⟩
    exact ⟨c, hc, before, after, hall, hbefore⟩
  · rintro ⟨c, hc, before, after, hall, hbefore⟩
    exact ⟨before, c, after, hall, hc, hbefore⟩

/-- **A rule is that of a definition**: it says what is written down, with patterns compiled, names
read and empty texts left out. -/
structure IsOf (r : Rule P) (compile : String → Except ε P) (d : Definition) : Prop where
  id_eq : r.id = d.id
  name_eq : r.name = d.name
  description_eq : r.description = d.description
  severity_eq : r.severity.name = (nonEmpty d.severity).getD Severity.fallback.name
  pattern_eq : compile d.pattern = .ok r.pattern
  negative_eq : (nonEmpty d.negativePattern).mapM compile = .ok r.negativePattern
  shebang_eq : (nonEmpty d.shebangMatch).mapM compile = .ok r.shebangMatch
  strategy_eq : r.strategy.name = (nonEmpty d.strategy).getD Strategy.fallback.name
  template_eq : r.template = nonEmpty d.template
  rationale_eq : r.rationale = nonEmpty d.rationale
  rewrite_eq : r.rewrite = nonEmpty d.rewrite
  examples_eq : r.examples = d.examples
  tags_eq : r.tags = d.tags
  references_eq : r.references = d.references

theorem isOf_of_ofDefinitionWith (h : ofDefinitionWith compile d = .ok r) :
    r.IsOf compile d := by
  obtain ⟨-, -, h⟩ := bind_eq_ok_iff.mp h
  obtain ⟨-, -, h⟩ := bind_eq_ok_iff.mp h
  obtain ⟨-, -, h⟩ := bind_eq_ok_iff.mp h
  obtain ⟨pattern, hpattern, h⟩ := bind_eq_ok_iff.mp h
  obtain ⟨negative, hnegative, h⟩ := bind_eq_ok_iff.mp h
  obtain ⟨shebang, hshebang, h⟩ := bind_eq_ok_iff.mp h
  obtain ⟨severity, hseverity, h⟩ := bind_eq_ok_iff.mp h
  obtain ⟨strategy, hstrategy, h⟩ := bind_eq_ok_iff.mp h
  rw [← Except.ok.inj h]
  exact {
    id_eq := rfl
    name_eq := rfl
    description_eq := rfl
    severity_eq := readSeverity_eq_ok_iff.mp hseverity
    pattern_eq := readPattern_eq_ok_iff.mp hpattern
    negative_eq := readPattern?_eq_ok_iff.mp hnegative
    shebang_eq := readPattern?_eq_ok_iff.mp hshebang
    strategy_eq := readStrategy_eq_ok_iff.mp hstrategy
    template_eq := rfl
    rationale_eq := rfl
    rewrite_eq := rfl
    examples_eq := rfl
    tags_eq := rfl
    references_eq := rfl }

/-- Only one rule is that of a definition. -/
theorem IsOf.unique (h : r.IsOf compile d) (h' : r'.IsOf compile d) : r = r' := by
  have hpattern := Except.ok.inj (h.pattern_eq.symm.trans h'.pattern_eq)
  have hnegative := Except.ok.inj (h.negative_eq.symm.trans h'.negative_eq)
  have hshebang := Except.ok.inj (h.shebang_eq.symm.trans h'.shebang_eq)
  have hseverity := Severity.name_injective (h.severity_eq.trans h'.severity_eq.symm)
  have hstrategy := Strategy.name_injective (h.strategy_eq.trans h'.strategy_eq.symm)
  cases r
  cases r'
  rw [mk.injEq]
  exact ⟨h.id_eq.trans h'.id_eq.symm, h.name_eq.trans h'.name_eq.symm,
    h.description_eq.trans h'.description_eq.symm, hseverity, hpattern, hnegative, hshebang,
    hstrategy, h.template_eq.trans h'.template_eq.symm,
    h.rationale_eq.trans h'.rationale_eq.symm, h.rewrite_eq.trans h'.rewrite_eq.symm,
    h.examples_eq.trans h'.examples_eq.symm, h.tags_eq.trans h'.tags_eq.symm,
    h.references_eq.trans h'.references_eq.symm⟩

/-- **Exactly the valid definitions make rules.** -/
theorem exists_ofDefinitionWith_iff :
    (∃ r, ofDefinitionWith compile d = .ok r) ↔ d.IsValid compile := by
  rw [← failure?_eq_none_iff, failure?_ofDefinitionWith, List.findSome?_eq_none_iff,
    Definition.isValid_iff_fault?]

/-- **The rule of a valid definition says what is written down.** -/
theorem ofDefinitionWith_eq_ok_iff :
    ofDefinitionWith compile d = .ok r ↔ d.IsValid compile ∧ r.IsOf compile d := by
  rw [← exists_ofDefinitionWith_iff]
  constructor
  · intro h
    exact ⟨⟨r, h⟩, isOf_of_ofDefinitionWith h⟩
  · rintro ⟨⟨r', hmade⟩, hof⟩
    rw [hmade, hof.unique (isOf_of_ofDefinitionWith hmade)]

end Rule

/-! ### Patterns have the texts that they were compiled from -/

theorem Pattern.source_of_ofString {source : String} {p : Pattern}
    (h : ofString source = .ok p) : p.source = source := by
  rw [ofString] at h
  split at h
  · cases h
  · rw [← Except.ok.inj h]

theorem Pattern.map_source_of_mapM {source : Option String} {p : Option Pattern}
    (h : source.mapM ofString = .ok p) : p.map Pattern.source = source := by
  cases source with
  | none =>
    rw [← Except.ok.inj h]
    rfl
  | some s =>
    obtain ⟨q, hq, rfl⟩ := map_eq_ok_iff.mp h
    rw [Option.map_some, source_of_ofString hq]

namespace Rule

variable {r : Rule} {d : Definition}

theorem isOf_of_ofDefinition (h : ofDefinition d = .ok r) : r.IsOf Pattern.ofString d :=
  isOf_of_ofDefinitionWith h

theorem IsOf.source_eq (h : r.IsOf Pattern.ofString d) : r.pattern.source = d.pattern :=
  Pattern.source_of_ofString h.pattern_eq

theorem IsOf.negative_source_eq (h : r.IsOf Pattern.ofString d) :
    r.negativePattern.map Pattern.source = nonEmpty d.negativePattern :=
  Pattern.map_source_of_mapM h.negative_eq

theorem IsOf.shebang_source_eq (h : r.IsOf Pattern.ofString d) :
    r.shebangMatch.map Pattern.source = nonEmpty d.shebangMatch :=
  Pattern.map_source_of_mapM h.shebang_eq

end Rule

end GnuLint
