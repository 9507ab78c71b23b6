import GnuLint.Proofs.Pattern.Anchor
import GnuLint.Proofs.Pattern.Replacement
import GnuLint.Proofs.Rule.Definition
import GnuLint.Proofs.Rule.Merge
import GnuLint.Rule.Catalog
import Mathlib.Data.List.Nodup

/-!
# What the builtin catalogue holds

No identifier comes up twice in the catalogue, so its rules are those that its definitions
make (`GnuLint.Catalog.mem_rules_iff`). A rule takes what it has from its definition
(`GnuLint.Rule.IsOf`); what is true of all rules is therefore seen by looking at the
definitions, without making the rules.

The rules that run without a human look at no comments and put plain texts in. The rules
that apply to some scripts only apply to those that another rule, left to a human, finds on
the first line (`GnuLint.Catalog.source_of_shebangMatch`,
`GnuLint.Catalog.exists_shebang`).
-/

namespace GnuLint

namespace Catalog

/-- The rules that some definitions make have identifiers of theirs, in the same order. -/
theorem ids_sublist (ds : List Definition) :
    ((ds.filterMap fun d => (Rule.ofDefinition d).toOption).map Rule.id).Sublist
      (ds.map Definition.id) := by
  induction ds with
  | nil => exact List.Sublist.slnil
  | cons d ds ih =>
    cases hd : Rule.ofDefinition d with
    | error e =>
      rw [List.filterMap_cons_none (by rw [hd]; rfl)]
      exact ih.cons d.id
    | ok r =>
      rw [List.filterMap_cons_some (b := r) (by rw [hd]; rfl), List.map_cons, List.map_cons,
        (Rule.isOf_of_ofDefinition hd).id_eq]
      exact ih.cons_cons d.id

/-- **The rules of the catalogue are those of its definitions.** -/
theorem mem_rules_iff {r : Rule} :
    r ∈ rules.rules ↔ ∃ d ∈ definitions, Rule.ofDefinition d = .ok r := by
  have hids : (definitions.map Definition.id).Nodup := by decide +kernel
  rw [rules, RuleSet.rules_ofRules ((ids_sublist definitions).nodup hids), List.mem_filterMap]
  refine exists_congr fun d => and_congr_right fun _ => ?_
  cases Rule.ofDefinition d <;> simp [Except.toOption]

/-- What a definition of the catalogue makes is a rule of it. -/
theorem get_mem_rules {d : Definition} (hd : d ∈ definitions)
    (h : (Rule.ofDefinition d).toOption.isSome = true) :
    (Rule.ofDefinition d).toOption.get h ∈ rules.rules := by
  refine mem_rules_iff.mpr ⟨d, hd, ?_⟩
  generalize Rule.ofDefinition d = made at h
  cases made with
  | error e => cases h
  | ok r => rfl

/-! ### Rules that run without a human -/

variable {r : Rule}

/-- **Rules that run without a human look at no comments.** -/
theorem targetsComments_of_isAutomatic (hr : r ∈ rules.rules)
    (hauto : r.strategy.isAutomatic = true) : r.targetsComments = false := by
  have hall : ∀ d ∈ definitions, ∀ s ∈ Strategy.all,
      s.name = (Rule.nonEmpty d.strategy).getD Strategy.fallback.name →
      s.isAutomatic = true → (d.pattern.toList.take 2 == ['^', '#']) = false := by
    decide +kernel
  obtain ⟨d, hd, hrule⟩ := mem_rules_iff.mp hr
  have hof := Rule.isOf_of_ofDefinition hrule
  rw [Rule.targetsComments, hof.source_eq]
  exact hall d hd r.strategy r.strategy.mem_all hof.strategy_eq hauto

/-- **What is put in the place of matches is plain.** -/
theorem isPlain_of_template {t : String} (hr : r ∈ rules.rules) (hreplace : r.strategy = .replace)
    (ht : r.template = some t) : Template.IsPlain t.toList := by
  have hall : ∀ d ∈ definitions,
      Strategy.replace.name = (Rule.nonEmpty d.strategy).getD Strategy.fallback.name →
      ∀ t ∈ Rule.nonEmpty d.template, Template.IsPlain t.toList := by
    decide +kernel
  obtain ⟨d, hd, hrule⟩ := mem_rules_iff.mp hr
  have hof := Rule.isOf_of_ofDefinition hrule
  refine hall d hd ?_ t ?_
  · rw [← hof.strategy_eq, hreplace]
  · rw [← hof.template_eq, ht]
    rfl

/-! ### Rules that apply to some scripts only -/

/-- The scripts that a rule is meant for are those with the interpreter line of the system's
own bash. -/
theorem source_of_shebangMatch {p : Pattern} (hr : r ∈ rules.rules)
    (hp : r.shebangMatch = some p) : p.source = binBashShebang.pattern := by
  have hall : ∀ d ∈ definitions, ∀ s ∈ Rule.nonEmpty d.shebangMatch,
      s = binBashShebang.pattern := by
    decide +kernel
  obtain ⟨d, hd, hrule⟩ := mem_rules_iff.mp hr
  have hof := Rule.isOf_of_ofDefinition hrule
  refine hall d hd p.source ?_
  rw [← hof.shebang_source_eq, hp]
  rfl

/-- **That interpreter line is found by a rule of its own**, which is left to a human. -/
theorem exists_shebang : ∃ r ∈ rules.rules, r.pattern.source = binBashShebang.pattern ∧
    r.strategy = .suggest ∧ r.negativePattern = none ∧ r.shebangMatch = none := by
  have hsome : (Rule.ofDefinition binBashShebang).toOption.isSome = true := by decide +kernel
  cases hrule : Rule.ofDefinition binBashShebang with
  | error e =>
    rw [hrule] at hsome
    cases hsome
  | ok r =>
    have hof := Rule.isOf_of_ofDefinition hrule
    refine ⟨r, mem_rules_iff.mpr ⟨binBashShebang, List.mem_cons_self, hrule⟩, hof.source_eq, ?_,
      Option.map_eq_none_iff.mp hof.negative_source_eq,
      Option.map_eq_none_iff.mp hof.shebang_source_eq⟩
    exact Strategy.name_injective hof.strategy_eq

/-- **A line that it is found on begins with a number sign.** -/
theorem head?_of_isMatch {p : Pattern} {line : Text} (hp : p.source = binBashShebang.pattern)
    (hline : p.isMatch line = true) : line.head? = some '#' := by
  have hanchor : (Regex.parse binBashShebang.pattern.toList).toOption.map
      (fun parsed => (Program.ofRegex parsed.regex).anchor?) = some (some '#') := by
    decide +kernel
  refine Pattern.head?_of_isMatch ?_ hline
  rw [← hp, p.parse_source] at hanchor
  rw [p.program_eq]
  exact Option.some.inj hanchor

end Catalog

end GnuLint
