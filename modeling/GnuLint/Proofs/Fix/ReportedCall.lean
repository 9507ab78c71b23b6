import GnuLint.Proofs.Fix.WholeLine
import GnuLint.Proofs.Grep.CallStart
import GnuLint.Proofs.Rule.Catalog

/-!
# Rewriting the call that was reported

Two rules of the catalogue find calls of grep with a Perl pattern, and both look for the
beginning of a call (`GnuLint.Catalog.exists_cluster`). What they find on a line is answered, and
it is fixed by rewriting the first call from it on whose pattern is quoted
(`GnuLint.Catalog.fixText_reportedCall`). If the call that was found is not such a call, another
one further to the right is rewritten in its place, and the finding counts as fixed
(`GnuLint.Catalog.fixText_reportedCall_unquoted`).
-/

namespace GnuLint

deriving instance DecidableEq for Unicode.RangeTable, CharSet, Regex

namespace Catalog

variable {r : Rule} {file : Path} {f : Finding} {text piece : Text} {i : Nat}

/-- **The two rules for calls of grep** look for the beginning of a call, and have it rewritten. -/
theorem exists_cluster (hr : r ∈ rules.rules)
    (hid : r.id = grepPerlRegex.id ∨ r.id = grepOnlyMatchingP.id) :
    r.strategy = .transform ∧ r.rewriteName = Registry.grepName ∧
      ∃ cluster, (cluster = Grep.singleFlag ∨ cluster = Grep.severalFlags) ∧
        r.pattern.parsed.regex = Grep.reportedCall cluster := by
  have hall : ∀ d ∈ definitions, d.id = grepPerlRegex.id ∨ d.id = grepOnlyMatchingP.id →
      (Rule.nonEmpty d.strategy).getD Strategy.fallback.name = Strategy.transform.name ∧
        Rule.nonEmpty d.rewrite = some Registry.grepName ∧
        ((Regex.parse d.pattern.toList).toOption.map Regex.Parsed.regex =
            some (Grep.reportedCall Grep.singleFlag) ∨
          (Regex.parse d.pattern.toList).toOption.map Regex.Parsed.regex =
            some (Grep.reportedCall Grep.severalFlags)) := by
    decide +kernel
  obtain ⟨d, hd, hrule⟩ := mem_rules_iff.mp hr
  have hof := Rule.isOf_of_ofDefinition hrule
  obtain ⟨hstrategy, hrewrite, hregex⟩ := hall d hd (hof.id_eq ▸ hid)
  rw [← hof.source_eq, r.pattern.parse_source] at hregex
  refine ⟨Strategy.name_injective (hof.strategy_eq.trans hstrategy), ?_, ?_⟩
  · rw [Rule.rewriteName, hof.rewrite_eq, hrewrite]
    rfl
  · rcases hregex with hregex | hregex
    · exact ⟨_, Or.inl rfl, Option.some.inj hregex⟩
    · exact ⟨_, Or.inr rfl, Option.some.inj hregex⟩

/-- **What these rules find is the beginning of a call.** -/
theorem isCallStart_of_findingOn? {number : Nat} {line : Text} (hr : r ∈ rules.rules)
    (hid : r.id = grepPerlRegex.id ∨ r.id = grepOnlyMatchingP.id)
    (hf : r.findingOn? file number line = some f) :
    ∃ blanks flags gap, Grep.IsCallStart f.matched blanks flags gap := by
  obtain ⟨-, -, cluster, hcluster, hregex⟩ := exists_cluster hr hid
  obtain ⟨o, ho, -, hmatched⟩ := (Rule.shows_of_findingOn? hf).occurrence
  have hmatches := Pattern.matches_of_find? ho
  rw [hregex] at hmatches
  exact hmatched ▸ Grep.exists_isCallStart hcluster hmatches

/-- **An attempt at a call that was reported.** It is answered, and if the answer is another
line, it has the first call from the finding on rewritten. -/
theorem exists_attempt {number : Nat} {line start rest : Text} (hr : r ∈ rules.rules)
    (hid : r.id = grepPerlRegex.id ∨ r.id = grepOnlyMatchingP.id)
    (hf : r.findingOn? file number line = some f)
    (hcut : Text.cutAt? line f.offset = some (start, f.matched ++ rest)) :
    ∃ answer, f.attempt .builtin line = .ok answer ∧ ∀ fixed, answer = .ok fixed →
      ∃ new, fixed = start ++ new ∧ Grep.FixesFound f.matched rest new := by
  obtain ⟨hstrategy, hname, -⟩ := exists_cluster hr hid
  obtain ⟨blanks, flags, gap, hstart⟩ := isCallStart_of_findingOn? hr hid hf
  obtain ⟨hline, hoffset⟩ := Text.cutAt?_eq_some_iff.mp hcut
  have hrule : f.rule = r := (Rule.shows_of_findingOn? hf).rule_eq
  have hget : Registry.builtin.get? Registry.grepName = some Grep.rewrite := rfl
  have hle : f.offset ≤ Text.byteLength line := by
    rw [← hoffset, hline]
    exact Text.byteLength_le_of_prefix (List.prefix_append start _)
  obtain ⟨outcome, houtcome⟩ := Grep.exists_rewrite_eq_ok_iff.mpr hle
  rw [Finding.attempt, hrule, hstrategy]
  dsimp only
  rw [Finding.transform, hrule, hname, hget]
  dsimp only
  rw [houtcome]
  cases outcome with
  | declined reason =>
    refine ⟨_, rfl, fun fixed hfixed => ?_⟩
    cases hfixed
  | rewritten new =>
    refine ⟨_, rfl, fun fixed hfixed => ?_⟩
    rw [(Finding.changed_eq_ok_iff.mp hfixed).2]
    rw [← hoffset, hline] at houtcome
    exact hstart.fixesFound houtcome

/-- **Fixing a reported call of grep.** The finding is answered: it is left alone, or the first
call from it on is rewritten. That is the call that was reported exactly if its pattern is quoted,
and only then the text at the finding no longer begins with what was found. -/
theorem fixText_reportedCall (hr : r ∈ rules.rules)
    (hid : r.id = grepPerlRegex.id ∨ r.id = grepOnlyMatchingP.id)
    (hpiece : (Text.pieces text)[i]? = some piece)
    (hf : r.findingOn? file (1 + i) (Text.body piece) = some f)
    (validator : Validator) (path : Path) :
    ∃ start rest answer,
      Text.cutAt? (Text.body piece) f.offset = some (start, f.matched ++ rest) ∧
      f.attempt .builtin (Text.body piece) = .ok answer ∧
      fixText .builtin validator path text [f] =
        .ok (FixResult.judge validator path text
          ((f.answered (Text.body piece) answer).inText text i)) ∧
      ∀ fixed, answer = .ok fixed →
        ∃ new, fixed = start ++ new ∧ Grep.FixesFound f.matched rest new := by
  have hshows := Rule.shows_of_findingOn? hf
  obtain ⟨start, rest, hcut⟩ := hshows.cutAt?_eq
  rw [hshows.content_eq] at hcut
  obtain ⟨answer, hattempt, hfixed⟩ := exists_attempt hr hid hf hcut
  refine ⟨start, rest, answer, hcut, hattempt, ?_, hfixed⟩
  exact fixText_of_onLine hpiece (by simpa using hshows.line_eq) (fixLine_of_answer hattempt)
    validator path

/-- The rule for calls of grep with the flag alone. -/
def grepPerlRegexRule : Rule :=
  (Rule.ofDefinition grepPerlRegex).toOption.get (by decide +kernel)

/-- The rule for calls of grep with the flag among others. -/
def grepOnlyMatchingPRule : Rule :=
  (Rule.ofDefinition grepOnlyMatchingP).toOption.get (by decide +kernel)

/-- A call after a pipe, with a quoted pattern. -/
def pipedCall : Finding :=
  grepOnlyMatchingPRule.finding "cat x | grep -oP '\\d' f" 9 "grep -oP "

/-- A call with a variable for its pattern, and another call after it. -/
def unquotedCall : Finding :=
  grepPerlRegexRule.finding "grep -P $x a; grep -P 'b' c" 1 "grep -P "

/-- The call after the pipe is rewritten, and nothing before it. -/
theorem fixText_reportedCall_piped :
    grepOnlyMatchingPRule ∈ rules.rules ∧ grepOnlyMatchingPRule.id = grepOnlyMatchingP.id ∧
      (Text.pieces "cat x | grep -oP '\\d' f\n".toList)[0]? =
        some "cat x | grep -oP '\\d' f\n".toList ∧
      grepOnlyMatchingPRule.findingOn? (.ofString "script.sh") 1
        "cat x | grep -oP '\\d' f".toList = some pipedCall ∧
      pipedCall.attempt .builtin "cat x | grep -oP '\\d' f".toList =
        .ok (.ok "cat x | grep -oE '[0-9]' f".toList) ∧
      ∃ start rest answer,
        Text.cutAt? "cat x | grep -oP '\\d' f".toList pipedCall.offset =
          some (start, pipedCall.matched ++ rest) ∧
        pipedCall.attempt .builtin "cat x | grep -oP '\\d' f".toList = .ok answer ∧
        fixText .builtin (fun _ => .ok ()) (.ofString "script.sh")
            "cat x | grep -oP '\\d' f\n".toList [pipedCall] =
          .ok (FixResult.judge (fun _ => .ok ()) (.ofString "script.sh")
            "cat x | grep -oP '\\d' f\n".toList
            ((pipedCall.answered "cat x | grep -oP '\\d' f".toList answer).inText
              "cat x | grep -oP '\\d' f\n".toList 0)) ∧
        ∀ fixed, answer = .ok fixed →
          ∃ new, fixed = start ++ new ∧ Grep.FixesFound pipedCall.matched rest new := by
  have hr : grepOnlyMatchingPRule ∈ rules.rules :=
    get_mem_rules (by simp [definitions]) (by decide +kernel)
  have hid : grepOnlyMatchingPRule.id = grepOnlyMatchingP.id := by decide +kernel
  have hpiece : (Text.pieces "cat x | grep -oP '\\d' f\n".toList)[0]? =
      some "cat x | grep -oP '\\d' f\n".toList := by
    decide +kernel
  have hf : grepOnlyMatchingPRule.findingOn? (.ofString "script.sh") 1
      "cat x | grep -oP '\\d' f".toList = some pipedCall := by
    decide +kernel
  exact ⟨hr, hid, hpiece, hf, by decide +kernel,
    fixText_reportedCall hr (Or.inr hid) hpiece hf (fun _ => .ok ()) (.ofString "script.sh")⟩

/-- **An unquoted pattern lets another call be rewritten.** The call that was found has a
variable for its pattern, so the quoted one after it is rewritten in its place. -/
theorem fixText_reportedCall_unquoted :
    grepPerlRegexRule ∈ rules.rules ∧
      grepPerlRegexRule.findingOn? (.ofString "script.sh") 1
        "grep -P $x a; grep -P 'b' c".toList = some unquotedCall ∧
      fixText .builtin (fun _ => .ok ()) (.ofString "script.sh")
          "grep -P $x a; grep -P 'b' c\n".toList [unquotedCall] =
        .ok {
          path := .ofString "script.sh"
          content := "grep -P $x a; grep -E 'b' c\n".toList
          applied := [unquotedCall.applied "grep -P $x a; grep -P 'b' c".toList
            "grep -P $x a; grep -E 'b' c".toList]
          unresolved := []
          candidate := some "grep -P $x a; grep -E 'b' c\n".toList
          rejection := none } ∧
      unquotedCall.offset = 0 ∧
      unquotedCall.matched <+: "grep -P $x a; grep -E 'b' c".toList := by
  refine ⟨get_mem_rules (by simp [definitions]) (by decide +kernel), ?_⟩
  decide +kernel

end Catalog

end GnuLint
