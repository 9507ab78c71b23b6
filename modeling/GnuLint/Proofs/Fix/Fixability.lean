import GnuLint.Proofs.Fix.Accounting
import GnuLint.Proofs.Fix.WholeLine
import GnuLint.Proofs.Pattern.LeftOver

/-!
# Findings that are said to be fixable

A report says of each finding whether it would be fixed, and it does so without replacing
anything: a template is taken to do its work. For a finding of a scan, fixed by itself, this is
right with one exception. A template may put back what it replaces
(`GnuLint.Finding.PutsBack`); then the finding is said to be fixable, and it is left alone since
the line does not change. In all other cases what is said comes true, whatever the rewrites may
be (`GnuLint.RuleSet.isFixable_scanText`).

The rules of the catalogue are never the exception. A template that puts itself back would have
to stand where the pattern has matched, and no match leaves room for it there
(`GnuLint.Catalog.leftOver_template`).
-/

namespace GnuLint

variable {registry : Registry} {f : Finding}

namespace Finding

/-! ### One finding on its own line -/

/-- **A finding puts back what is there**: from the finding on, its template makes the line what
it already is. -/
def PutsBack (f : Finding) : Prop :=
  f.rule.strategy = .replace ∧ ∃ template start tail, f.rule.template = some template ∧
    Text.cutAt? f.content f.offset = some (start, tail) ∧
    f.rule.pattern.replaceAll tail template.toList = tail

/-- A template changes the line exactly if it does not put back what is there. -/
theorem exists_replace_iff {start after : Text} (hstrategy : f.rule.strategy = .replace)
    (hcut : Text.cutAt? f.content f.offset = some (start, f.matched ++ after)) :
    (∃ fixed, f.replace f.content = .ok fixed) ↔
      f.rule.template.isSome = true ∧ ¬f.PutsBack := by
  rw [replace, cut?_of_cutAt? hcut]
  cases htemplate : f.rule.template with
  | none => simp
  | some template =>
    have hputs : f.PutsBack ↔
        f.rule.pattern.replaceAll (f.matched ++ after) template.toList = f.matched ++ after := by
      constructor
      · rintro ⟨-, template', start', tail, htemplate', hcut', hsame⟩
        obtain rfl := Option.some.inj (htemplate.symm.trans htemplate')
        obtain ⟨-, rfl⟩ := Prod.mk.inj (Option.some.inj (hcut.symm.trans hcut'))
        exact hsame
      · intro hsame
        exact ⟨hstrategy, template, start, _, htemplate, hcut, hsame⟩
    rw [hputs]
    simp [map_eq_ok_iff, changed_eq_ok_iff]

theorem map_isOk_eq_ok_true_iff {ε ε' α : Type} {x : Except ε (Except ε' α)} :
    x.map Except.isOk = .ok true ↔ ∃ a, x = .ok (.ok a) := by
  rcases x with e | e | a
  · simp [Except.map]
  · simp [Except.map, Except.isOk, Except.toBool]
  · simp [Except.map, Except.isOk, Except.toBool]

/-- **A finding that stands on its own line is fixed there exactly if it is said to be fixable
and does not put back what is there.** -/
theorem exists_fixed_iff {start after : Text}
    (hcut : Text.cutAt? f.content f.offset = some (start, f.matched ++ after)) :
    (∃ fixed, f.attempt registry f.content = .ok (.ok fixed)) ↔
      f.isFixable registry = .ok true ∧ ¬f.PutsBack := by
  by_cases hstrategy : f.rule.strategy = .replace
  · rw [attempt, isFixable, hstrategy]
    simpa using exists_replace_iff hstrategy hcut
  · have hnot : ¬f.PutsBack := fun h => hstrategy h.1
    rw [isFixable_of_ne_replace hstrategy, map_isOk_eq_ok_true_iff, and_iff_left hnot]

end Finding

/-! ### Texts with one finding to fix -/

section Single

variable {text : Text} {validator : Validator} {path : Path}

/-- The line of a finding that stands in a text is a piece of it. -/
theorem Finding.StandsIn.exists_piece (h : f.StandsIn text) :
    ∃ i piece, f.line = 1 + i ∧ (Text.pieces text)[i]? = some piece ∧
      Text.body piece = f.content := by
  obtain ⟨piece, hpiece, hbody⟩ := Option.map_eq_some_iff.mp h.content_eq
  have hpos := h.line_pos
  exact ⟨f.line - 1, piece, by omega, hpiece, hbody⟩

/-- **A text with one finding to fix has a result exactly if the attempt is answered.** -/
theorem exists_fixText_singleton_iff (h : f.StandsIn text) :
    (∃ result, fixText registry validator path text [f] = .ok result) ↔
      ∃ answer, f.attempt registry f.content = .ok answer := by
  obtain ⟨i, piece, hline, hpiece, hbody⟩ := h.exists_piece
  constructor
  · intro hresult
    have hanswered := exists_fixText_iff.mp hresult ⟨f, f.content⟩ (mem_attempts.mpr
      ⟨i, piece, hpiece, ?_⟩)
    · exact hanswered
    · have hhere : Findings.onLine (1 + i) [f] = [f] :=
        List.filter_eq_self.mpr fun g hg => by simpa [List.mem_singleton.mp hg] using hline
      rw [hhere, hbody]
      exact List.mem_cons_self
  · rintro ⟨answer, hanswer⟩
    rw [← hbody] at hanswer
    exact ⟨_, fixText_of_onLine hpiece (fun g hg => List.mem_singleton.mp hg ▸ hline)
      (fixLine_of_answer hanswer) validator path⟩

/-- **The finding is recorded as fixed exactly if the attempt succeeds.** -/
theorem exists_applied_iff (h : f.StandsIn text) {result : FixResult}
    (hresult : fixText registry validator path text [f] = .ok result) :
    (∃ a ∈ result.applied, a.mark = f.mark) ↔
      ∃ fixed, f.attempt registry f.content = .ok (.ok fixed) := by
  obtain ⟨answer, hanswer⟩ := (exists_fixText_singleton_iff h).mp ⟨result, hresult⟩
  obtain ⟨i, piece, hline, hpiece, hbody⟩ := h.exists_piece
  have hfixed := fixText_of_onLine hpiece (fun g hg => List.mem_singleton.mp hg ▸ hline)
    (fixLine_of_answer (hbody ▸ hanswer)) validator path
  obtain rfl := Except.ok.inj (hresult.symm.trans hfixed)
  rw [(FixResult.records_judge ..).1, hanswer]
  cases answer with
  | ok fixed =>
    exact iff_of_true ⟨f.applied _ fixed, List.mem_cons_self, rfl⟩ ⟨fixed, rfl⟩
  | error reason =>
    refine iff_of_false ?_ ?_
    · rintro ⟨a, ha, -⟩
      cases ha
    · rintro ⟨fixed, hok⟩
      cases hok

end Single

/-! ### Templates that do not put themselves back -/

/-- **What is left of a line after the first replacement begins with the template**, if the
occurrence stands alone and the template stands for itself. -/
theorem Pattern.prefix_replaceAll {p : Pattern} {s t : Text} {o : Occurrence}
    (ho : p.find? s = some o) (halone : p.StandsAlone o) (ht : '$' ∉ t) :
    t <+: p.replaceAll (o.matched ++ o.after) t := by
  have hhits := hits_of_standsAlone ho halone
  obtain ⟨hit, hhit, rfl⟩ := Option.map_eq_some_iff.mp ho
  obtain ⟨hits, hfirst⟩ := exists_hits_of_hit? hhit
  rw [hfirst, length_before_occurrence hhit] at hhits
  obtain ⟨first, later, htail, hshift, -⟩ := List.map_eq_cons_iff.mp hhits.symm
  -- the first match of the tail is that of the text, and it begins where the tail does
  have hstart : first.start = 0 := by
    have heq := congrArg Hit.start hshift
    have heq' : first.start + hit.start = hit.start := heq
    omega
  rw [replaceAll, htail, replaceFrom, hstart, Template.expand_of_notMem ht]
  exact List.prefix_append t _

namespace Catalog

/-- **No template of the catalogue stands where its pattern matches.** -/
theorem leftOver_template {r : Rule} {t : String} (hr : r ∈ rules.rules)
    (hreplace : r.strategy = .replace) (ht : r.template = some t) :
    r.pattern.parsed.regex.leftOver t.toList = [] := by
  have hall : ∀ d ∈ definitions,
      Strategy.replace.name = (Rule.nonEmpty d.strategy).getD Strategy.fallback.name →
      ∀ t ∈ Rule.nonEmpty d.template, ∀ parsed ∈ (Regex.parse d.pattern.toList).toOption,
        parsed.regex.leftOver t.toList = [] := by
    decide +kernel
  obtain ⟨d, hd, hrule⟩ := mem_rules_iff.mp hr
  have hof := Rule.isOf_of_ofDefinition hrule
  refine hall d hd ?_ t ?_ r.pattern.parsed ?_
  · rw [← hof.strategy_eq, hreplace]
  · rw [← hof.template_eq, ht]
    rfl
  · rw [← hof.source_eq, r.pattern.parse_source]
    rfl

/-- **A rule of the catalogue puts back nothing that it finds.** -/
theorem not_putsBack {r : Rule} {file : Path} {number : Nat} {line : Text}
    (hr : r ∈ rules.rules) (hf : r.findingOn? file number line = some f) : ¬f.PutsBack := by
  have hshows := Rule.shows_of_findingOn? hf
  obtain ⟨o, ho, -, hcut⟩ := hshows.exists_cutAt?
  rintro ⟨hreplace, t, start, tail, htemplate, hcut', hsame⟩
  rw [hshows.rule_eq] at hreplace htemplate hsame
  obtain ⟨-, rfl⟩ := Prod.mk.inj (Option.some.inj (hcut.symm.trans hcut'))
  have halone := Pattern.standsAlone_of_beginsWithWord (beginsWithWord_of_replace hr hreplace) ho
  have hplain := isPlain_of_template hr hreplace htemplate
  -- what the template puts back would stand where the pattern has matched
  have hprefix := Pattern.prefix_replaceAll ho halone hplain.noReference
  rw [hsame] at hprefix
  exact Regex.not_prefix_of_leftOver (leftOver_template hr hreplace htemplate)
    (Pattern.matches_of_find? ho) hprefix

end Catalog

namespace RuleSet

variable {s : RuleSet} {file : Path} {text : Text}

/-- **What is said of a finding of a scan comes true.** -/
theorem isFixable_scanText (hf : f ∈ s.scanText file text) (registry : Registry)
    (validator : Validator) (path : Path) :
    ((∃ result, fixText registry validator path text [f] = .ok result) ↔
        ∃ fixable, f.isFixable registry = .ok fixable) ∧
      ∀ result, fixText registry validator path text [f] = .ok result →
        ((∃ a ∈ result.applied, a.mark = f.mark) ↔
          f.isFixable registry = .ok true ∧ ¬f.PutsBack) ∧
        (f.rule ∈ Catalog.rules.rules →
          ((∃ a ∈ result.applied, a.mark = f.mark) ↔ f.isFixable registry = .ok true)) := by
  have hstands := standsIn_of_mem_scanText hf
  obtain ⟨start, after, hcut⟩ := hstands.cutAt?_eq
  refine ⟨(exists_fixText_singleton_iff hstands).trans Finding.exists_attempt_iff,
    fun result hresult => ?_⟩
  have happlied := (exists_applied_iff hstands hresult).trans (Finding.exists_fixed_iff hcut)
  refine ⟨happlied, fun hrule => ?_⟩
  obtain ⟨i, line, -, -, hfound⟩ := mem_findingsFrom.mp hf
  obtain ⟨-, r, -, -, hr⟩ := mem_findingsOn.mp hfound
  have hnot := Catalog.not_putsBack ((Rule.shows_of_findingOn? hr).rule_eq ▸ hrule) hr
  rw [happlied, and_iff_left hnot]

/-- A script with two calls of sed, which a rule of the catalogue finds. -/
def sedScript : Text := "parsed -r; sed -r p x | sed -r q\r\n".toList

/-- It is said that the finding would be fixed, and it is. -/
theorem isFixable_scanText_sedCall :
    Rule.sedCall ∈ (ofRules [.extendedSed]).scanText (.ofString "script.sh") sedScript ∧
      Rule.sedCall.isFixable ∅ = .ok true ∧
      (∃ result, fixText ∅ (fun _ => .ok ()) (.ofString "script.sh") sedScript [Rule.sedCall] =
        .ok result) ∧
      ∀ result, fixText ∅ (fun _ => .ok ()) (.ofString "script.sh") sedScript [Rule.sedCall] =
        .ok result → ∃ a ∈ result.applied, a.mark = Rule.sedCall.mark := by
  have hfound : Rule.sedCall ∈
      (ofRules [.extendedSed]).scanText (.ofString "script.sh") sedScript := by
    decide +kernel
  have hfixable : Rule.sedCall.isFixable ∅ = .ok true := by decide +kernel
  have hrule : Rule.extendedSed ∈ Catalog.rules.rules :=
    Catalog.get_mem_rules (by simp [Catalog.definitions]) (by decide +kernel)
  obtain ⟨hresult, happlied⟩ :=
    isFixable_scanText hfound ∅ (fun _ => .ok ()) (.ofString "script.sh")
  exact ⟨hfound, hfixable, hresult.mpr ⟨true, hfixable⟩,
    fun result h => ((happlied result h).2 hrule).mpr hfixable⟩

end RuleSet

/-- The definition of a rule that leaves one blank of several. -/
def Definition.oneBlank : Definition where
  id := "one-blank"
  name := "One blank"
  pattern := "sed +-E"
  strategy := some "replace"
  template := some "sed -E"

namespace Rule

/-- The rule that leaves one blank. -/
def oneBlank : Rule := (Rule.ofDefinition .oneBlank).toOption.get (by decide +kernel)

/-- **What is said does not come true where there is one blank already.** The rule finds the
call, and it is said that it would be fixed, but the replacement is what was there. -/
theorem isFixable_oneBlank :
    (RuleSet.ofRules [oneBlank]).scanText (.ofString "script.sh") "sed -E p\n".toList =
        [oneBlank.finding "sed -E p" 1 "sed -E"] ∧
      (oneBlank.finding "sed -E p" 1 "sed -E").isFixable .builtin = .ok true ∧
      fixText .builtin (fun _ => .ok ()) (.ofString "script.sh") "sed -E p\n".toList
          [oneBlank.finding "sed -E p" 1 "sed -E"] =
        .ok {
          path := .ofString "script.sh"
          content := "sed -E p\n".toList
          applied := []
          unresolved := [(oneBlank.finding "sed -E p" 1 "sed -E").unresolved .sameReplacement]
          candidate := none
          rejection := none } := by
  decide +kernel

end Rule

end GnuLint
