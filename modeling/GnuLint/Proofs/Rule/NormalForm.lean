import GnuLint.Proofs.Rule.Definition
import GnuLint.Rule.RuleSet
import Mathlib.Data.List.Forall2

/-!
# Rules are equal as their definitions are

Much of a definition may be written in more than one way: an optional text that is empty means
the same as none at all, and a definition that names no severity or no strategy gets the usual
one. In the normal form of a definition (`GnuLint.Definition.normal`) each of these is written in
one way. A rule, in turn, can be written down again (`GnuLint.Rule.toDefinition`), and what comes
out is the normal form of whatever it was made of. Comparing two rules field by field therefore
tells exactly whether their definitions have one normal form
(`GnuLint.Rule.agrees_ofDefinition`).
-/

namespace GnuLint

/-- **The normal form of a definition**: an optional text that is empty is left out, and a
severity or a strategy that is not named is written out. -/
def Definition.normal (d : Definition) : Definition :=
  { d with
    severity := some ((Rule.nonEmpty d.severity).getD "warning")
    negativePattern := Rule.nonEmpty d.negativePattern
    shebangMatch := Rule.nonEmpty d.shebangMatch
    strategy := some ((Rule.nonEmpty d.strategy).getD "suggest")
    template := Rule.nonEmpty d.template
    rationale := Rule.nonEmpty d.rationale
    rewrite := Rule.nonEmpty d.rewrite }

/-! ### Rules that are written down -/

namespace Rule

variable {d : Definition} {r q : Rule}

/-- **A rule written down again.** -/
def toDefinition (r : Rule) : Definition where
  id := r.id
  name := r.name
  description := r.description
  severity := some r.severity.name
  pattern := r.pattern.source
  negativePattern := r.negativePattern.map Pattern.source
  shebangMatch := r.shebangMatch.map Pattern.source
  strategy := some r.strategy.name
  template := r.template
  rationale := r.rationale
  rewrite := r.rewrite
  examples := r.examples
  tags := r.tags
  references := r.references

/-- Rules are compared by what is written down of them. -/
theorem agrees_iff_toDefinition : r.agrees q = true ↔ r.toDefinition = q.toDefinition := by
  simp only [agrees, Bool.and_eq_true, beq_iff_eq, and_assoc, toDefinition, Definition.mk.injEq,
    Option.some.injEq, Severity.name_injective.eq_iff, Strategy.name_injective.eq_iff]

/-- **A rule written down again is the normal form of its definition.** -/
theorem IsOf.toDefinition_eq (h : r.IsOf Pattern.ofString d) : r.toDefinition = d.normal := by
  rw [toDefinition, Definition.normal, Definition.mk.injEq]
  exact ⟨h.id_eq, h.name_eq, h.description_eq, congrArg some h.severity_eq, h.source_eq,
    h.negative_source_eq, h.shebang_source_eq, congrArg some h.strategy_eq, h.template_eq,
    h.rationale_eq, h.rewrite_eq, h.examples_eq, h.tags_eq, h.references_eq⟩

theorem equivalence_agrees : Equivalence fun r q : Rule => r.agrees q = true := by
  simp only [agrees_iff]
  exact eq_equivalence

end Rule

/-- Rule sets are compared rule by rule. -/
theorem RuleSet.eq_iff_forall₂ {s t : RuleSet} :
    s = t ↔ List.Forall₂ (fun r q : Rule => r.agrees q = true) s.rules t.rules := by
  simp only [Rule.agrees_iff, List.forall₂_eq_eq_eq]
  exact ⟨congrArg rules, ext_rules⟩

namespace Rule

/-- **Two rules are equal exactly if their definitions have one normal form.** Comparing rules
field by field is an equivalence relation, and rule sets are equal exactly if they are as long as
each other and equal rule by rule. -/
theorem agrees_ofDefinition {d₁ d₂ : Definition} {r₁ r₂ : Rule} (h₁ : ofDefinition d₁ = .ok r₁)
    (h₂ : ofDefinition d₂ = .ok r₂) :
    (r₁.agrees r₂ = true ↔ d₁.normal = d₂.normal) ∧
      Equivalence (fun r q : Rule => r.agrees q = true) ∧
      ∀ s t : RuleSet,
        s = t ↔ List.Forall₂ (fun r q : Rule => r.agrees q = true) s.rules t.rules := by
  refine ⟨?_, equivalence_agrees, fun _ _ => RuleSet.eq_iff_forall₂⟩
  rw [agrees_iff_toDefinition, (isOf_of_ofDefinition h₁).toDefinition_eq,
    (isOf_of_ofDefinition h₂).toDefinition_eq]

/-- A definition that leaves out what it can. -/
def bareDefinition : Definition where
  id := "a"
  name := "A"
  pattern := "x"

/-- The same definition with everything that it can leave out. -/
def fullDefinition : Definition :=
  { bareDefinition with
    severity := some "warning"
    negativePattern := some ""
    shebangMatch := some ""
    strategy := some "suggest"
    template := some ""
    rationale := some ""
    rewrite := some "" }

/-- A definition for some scripts only. -/
def gatedDefinition : Definition := { bareDefinition with shebangMatch := some "x" }

/-- The first two make one rule, and the last one makes another. -/
theorem agrees_ofDefinition_spellings : ∃ bare full gated,
    ofDefinition bareDefinition = .ok bare ∧ ofDefinition fullDefinition = .ok full ∧
      ofDefinition gatedDefinition = .ok gated ∧ bare.agrees full = true ∧
      bare.agrees gated = false := by
  obtain ⟨bare, hbare⟩ := exists_ofDefinitionWith_iff.mpr
    (show bareDefinition.IsValid Pattern.ofString by decide +kernel)
  obtain ⟨full, hfull⟩ := exists_ofDefinitionWith_iff.mpr
    (show fullDefinition.IsValid Pattern.ofString by decide +kernel)
  obtain ⟨gated, hgated⟩ := exists_ofDefinitionWith_iff.mpr
    (show gatedDefinition.IsValid Pattern.ofString by decide +kernel)
  refine ⟨bare, full, gated, hbare, hfull, hgated, ?_, ?_⟩
  · exact (agrees_ofDefinition hbare hfull).1.mpr (by decide)
  · rw [Bool.eq_false_iff, ne_eq, (agrees_ofDefinition hbare hgated).1]
    decide

end Rule

end GnuLint
