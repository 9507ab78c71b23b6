import GnuLint.Proofs.Rule.MergeLaws

/-!
# Some of the rules of a rule set

The rules of a rule set that satisfy a condition make up a rule set themselves, in the order
in which they were (`GnuLint.RuleSet.restrict`).

Overriding a rule set `a` by a rule set `b` is seen through two conditions. Outside the
identifiers of `b` nothing happens, so the rules left of `a` are the same in the same order
(`GnuLint.RuleSet.restrict_overriddenBy_of_notMem`). Under the identifiers of `b` there are
the rules of `b` and no others, but a rule that came to the place of another one stands before
rules that it came after in `b`, so they are the same only up to order
(`GnuLint.RuleSet.perm_restrict_overriddenBy`).
-/

namespace GnuLint

namespace RuleSet

/-- **The rules that satisfy a condition**, in their order. -/
def restrict (s : RuleSet) (p : Rule → Bool) : RuleSet :=
  ⟨s.rules.filter p, (List.filter_sublist.map Rule.id).nodup s.nodup_ids⟩

@[simp] theorem rules_restrict (s : RuleSet) (p : Rule → Bool) :
    (s.restrict p).rules = s.rules.filter p := rfl

theorem nodup_rules (s : RuleSet) : s.rules.Nodup := s.nodup_ids.of_map Rule.id

/-- What is left of a rule set if one rule is asked for. -/
theorem restrict_to_rule (s : RuleSet) (r : Rule) :
    (s.restrict fun q => q = r) = if r ∈ s.rules then ofRules [r] else empty := by
  refine ext_rules ?_
  rw [rules_restrict, List.filter_eq]
  by_cases h : r ∈ s.rules
  · rw [if_pos h, List.count_eq_one_of_mem s.nodup_rules h]
    rfl
  · rw [if_neg h, List.count_eq_zero_of_not_mem h]
    rfl

/-! ### The rules that are not overridden -/

theorem filter_insertInto {r : Rule} {qs : List Rule} {p : Rule → Bool}
    (h : ∀ q : Rule, q.id = r.id → p q = false) : (r.insertInto qs).filter p = qs.filter p := by
  induction qs with
  | nil => rw [Rule.insertInto, List.filter_cons_of_neg (by simp [h r rfl])]
  | cons q qs ih =>
    by_cases hq : q.id = r.id
    · -- the rule that goes fails the condition as well as the one that comes
      rw [Rule.insertInto, if_pos hq, List.filter_cons_of_neg (by simp [h r rfl]),
        List.filter_cons_of_neg (by simp [h q hq])]
    · rw [Rule.insertInto, if_neg hq, List.filter_cons, List.filter_cons, ih]

theorem restrict_insertAll {s : RuleSet} {rs : List Rule} {p : Rule → Bool}
    (h : ∀ q : Rule, q.id ∈ rs.map Rule.id → p q = false) :
    (s.insertAll rs).restrict p = s.restrict p := by
  induction rs generalizing s with
  | nil => rfl
  | cons r rs ih =>
    have hrest : ∀ q : Rule, q.id ∈ rs.map Rule.id → p q = false :=
      fun q hq => h q (List.mem_cons_of_mem _ hq)
    have hr : ∀ q : Rule, q.id = r.id → p q = false :=
      fun q hq => h q (hq ▸ List.mem_cons_self)
    rw [insertAll_cons, ih hrest]
    exact ext_rules (filter_insertInto hr)

theorem restrict_overriddenBy_of_notMem (a b : RuleSet) :
    ((a.overriddenBy b).restrict fun r => r.id ∉ b.ids) = a.restrict fun r => r.id ∉ b.ids := by
  rw [overriddenBy_eq_insertAll]
  exact restrict_insertAll fun q hq => decide_eq_false (not_not_intro hq)

/-! ### The rules that override -/

section Overriding

variable {a b : RuleSet} {r : Rule} {i : String}

theorem get?_overriddenBy : (a.overriddenBy b).get? i = (b.get? i).or (a.get? i) := by
  rw [overriddenBy_eq_ofRules, get?_ofRules, List.filter_append, List.getLast?_append,
    ← get?_ofRules, ← get?_ofRules, ofRules_rules, ofRules_rules]

theorem get?_eq_none_iff {s : RuleSet} : s.get? i = none ↔ i ∉ s.ids := by
  rw [get?, List.find?_eq_none, ids, List.mem_map]
  simp

/-- After overriding, there are the overriding rules and those that none of them has taken
the identifier of. -/
theorem mem_rules_overriddenBy :
    r ∈ (a.overriddenBy b).rules ↔ r ∈ b.rules ∨ r.id ∉ b.ids ∧ r ∈ a.rules := by
  have hget : ∀ s : RuleSet, r ∈ s.rules ↔ s.get? r.id = some r :=
    fun s => by rw [get?_eq_some_iff, and_iff_left rfl]
  rw [hget, hget, hget, get?_overriddenBy, Option.or_eq_some_iff, get?_eq_none_iff]

end Overriding

theorem perm_restrict_overriddenBy (a b : RuleSet) :
    ((a.overriddenBy b).restrict fun r => r.id ∈ b.ids).rules.Perm b.rules := by
  refine (List.perm_ext_iff_of_nodup (nodup_rules _) b.nodup_rules).mpr fun r => ?_
  rw [rules_restrict, List.mem_filter, mem_rules_overriddenBy, decide_eq_true_iff]
  constructor
  · rintro ⟨hr | ⟨hfree, -⟩, hid⟩
    · exact hr
    · exact absurd hid hfree
  · intro hr
    exact ⟨Or.inl hr, List.mem_map_of_mem hr⟩

end RuleSet

end GnuLint
