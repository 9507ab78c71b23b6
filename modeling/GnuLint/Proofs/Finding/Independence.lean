import GnuLint.Proofs.Finding.Scan
import GnuLint.Proofs.Rule.Restriction

/-!
# Rules do not interfere

Scanning looks at all rules side by side, and what it carries from line to line is the region
alone, which no rule has a part in. So what some of the rules find can be told from the
scan with all of them: it is what is left of its findings
(`GnuLint.RuleSet.scan_isRulewise`). The order of the rules shows in the order of the findings
and in nothing else (`GnuLint.RuleSet.perm_scanText`).

For a rule set that overrides another one, the two facts say what the overriding rules have
changed: the findings of all other rules are what they were, and on each line the
overriding rules find what they find by themselves
(`GnuLint.RuleSet.scanText_overriddenBy`).
-/

namespace GnuLint

/-! ### Some of the rules -/

theorem Rule.filter_findingOn? (r : Rule) (p : Rule → Bool) (file : Path) (number : Nat)
    (line : Text) : (r.findingOn? file number line).filter (fun f => p f.rule) =
      if p r then r.findingOn? file number line else none := by
  cases hf : r.findingOn? file number line with
  | none => simp
  | some f => rw [Option.filter_some, (shows_of_findingOn? hf).rule_eq]

section Restricted

variable (rules : List Rule) (p : Rule → Bool) (file : Path)

theorem filter_findingsOn (number : Nat) (line : Text) :
    (findingsOn rules file number line).filter (fun f => p f.rule) =
      findingsOn (rules.filter p) file number line := by
  rw [findingsOn, findingsOn]
  split
  · rfl
  · -- both sides run over all rules; the condition is asked after a rule has looked or before
    rw [List.filter_filterMap, List.filterMap_filter]
    refine congrArg (List.filterMap · rules) (funext fun r => ?_)
    cases r.looksAt line with
    | true => exact r.filter_findingOn? p file number line
    | false => simp

/-- The region goes its way without the rules, so the lines are excluded for some of them
exactly if they are for all. -/
theorem filter_findingsFrom (number : Nat) (region : Region) (lines : List Text) :
    (findingsFrom rules file number region lines).filter (fun f => p f.rule) =
      findingsFrom (rules.filter p) file number region lines := by
  induction lines generalizing number region with
  | nil => rfl
  | cons line lines ih =>
    rw [findingsFrom, findingsFrom, List.filter_append, ih]
    split
    · rfl
    · rw [filter_findingsOn]

end Restricted

namespace RuleSet

theorem active_restrict (s : RuleSet) (p : Rule → Bool) (lines : List Text) :
    (s.restrict p).active lines = (s.active lines).filter p :=
  List.filter_comm _ _ s.rules

theorem filter_scanLines (s : RuleSet) (p : Rule → Bool) (file : Path) (lines : List Text) :
    (s.scanLines file lines).filter (fun f => p f.rule) = (s.restrict p).scanLines file lines := by
  rw [scanLines, filter_findingsFrom, scanLines, active_restrict]

theorem filter_scanText (s : RuleSet) (p : Rule → Bool) (file : Path) (text : Text) :
    (s.scanText file text).filter (fun f => p f.rule) = (s.restrict p).scanText file text :=
  filter_scanLines s p file (Text.lines text)

theorem filter_scanReads {ε : Type} (s : RuleSet) (p : Rule → Bool) (file : Path)
    (reads : List (Except ε Text)) :
    (s.scanReads file reads).map (List.filter fun f => p f.rule) =
      (s.restrict p).scanReads file reads := by
  rw [scanReads, scanReads]
  cases readAll file 1 reads with
  | error e => rfl
  | ok lines => exact congrArg Except.ok (filter_scanLines s p file lines)

/-- **Rules do not interfere.** What is left of the findings of a scan for the rules that
satisfy a condition is what these rules find by themselves, also where lines may fail to be
read. So the findings from a severity on are those of the rules from that severity on, and
a rule finds the same whatever rules are there beside it. -/
theorem scan_isRulewise {ε : Type} (s : RuleSet) (p : Rule → Bool) (least : Severity) (r : Rule)
    (file : Path) (text : Text) (reads : List (Except ε Text)) :
    (s.scanText file text).filter (fun f => p f.rule) = (s.restrict p).scanText file text ∧
    (s.scanReads file reads).map (List.filter fun f => p f.rule) =
      (s.restrict p).scanReads file reads ∧
    Findings.atLeast least (s.scanText file text) =
      (s.restrict fun q => least ≤ q.severity).scanText file text ∧
    (s.scanText file text).filter (fun f => f.rule = r) =
      (if r ∈ s.rules then ofRules [r] else empty).scanText file text := by
  refine ⟨filter_scanText s p file text, filter_scanReads s p file reads,
    filter_scanText s (fun q => least ≤ q.severity) file text, ?_⟩
  rw [← restrict_to_rule]
  exact filter_scanText s (fun q => q = r) file text

end RuleSet

/-! ### Rules in another order -/

section Reordered

variable {rules rules' : List Rule} {file : Path}

theorem perm_findingsOn (h : rules.Perm rules') (number : Nat) (line : Text) :
    (findingsOn rules file number line).Perm (findingsOn rules' file number line) := by
  rw [findingsOn, findingsOn]
  split
  · exact List.Perm.refl []
  · exact h.filterMap _

theorem perm_findingsFrom (h : rules.Perm rules') (number : Nat) (region : Region)
    (lines : List Text) : (findingsFrom rules file number region lines).Perm
      (findingsFrom rules' file number region lines) := by
  induction lines generalizing number region with
  | nil => exact List.Perm.refl []
  | cons line lines ih =>
    rw [findingsFrom, findingsFrom]
    refine List.Perm.append ?_ (ih (number + 1) (region.next line))
    split
    · exact List.Perm.refl []
    · exact perm_findingsOn h number line

end Reordered

namespace RuleSet

theorem perm_scanText {a b : RuleSet} (h : a.rules.Perm b.rules) (file : Path) (text : Text) :
    (a.scanText file text).Perm (b.scanText file text) :=
  perm_findingsFrom (h.filter _) 1 .outside (Text.lines text)

/-- **Overriding rules changes nothing else.** The findings under other identifiers are those
of the overridden rule set, in the same order; on each line, those under the identifiers of
the overriding rules are what these rules find by themselves, up to order. -/
theorem scanText_overriddenBy (a b : RuleSet) (file : Path) (text : Text) :
    ((a.overriddenBy b).scanText file text).filter (fun f => f.rule.id ∉ b.ids) =
      (a.scanText file text).filter (fun f => f.rule.id ∉ b.ids) ∧
    ∀ number, (((a.overriddenBy b).scanText file text).filter fun f =>
        f.line = number ∧ f.rule.id ∈ b.ids).Perm
      ((b.scanText file text).filter fun f => f.line = number) := by
  constructor
  · calc ((a.overriddenBy b).scanText file text).filter (fun f => f.rule.id ∉ b.ids)
        = ((a.overriddenBy b).restrict fun r => r.id ∉ b.ids).scanText file text :=
          filter_scanText _ (fun r => r.id ∉ b.ids) file text
      _ = (a.restrict fun r => r.id ∉ b.ids).scanText file text := by
          rw [restrict_overriddenBy_of_notMem]
      _ = (a.scanText file text).filter (fun f => f.rule.id ∉ b.ids) :=
          (filter_scanText a (fun r => r.id ∉ b.ids) file text).symm
  · intro number
    -- findings that agree up to order as a whole do so on every line
    have hperm := perm_scanText (perm_restrict_overriddenBy a b) file text
    rw [← filter_scanText (a.overriddenBy b) (fun r => r.id ∈ b.ids)] at hperm
    have hline := hperm.filter fun f => f.line = number
    rw [List.filter_filter] at hline
    simpa only [Bool.decide_and] using hline

end RuleSet

end GnuLint
