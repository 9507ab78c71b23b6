import GnuLint.Proofs.Fix.FreshFindings

/-!
# Fixing findings that may be stale

A script may have changed since it was scanned, and findings of the old script are fixed in the
new one all the same: on any line, at any column, whatever the line has there now. What a result
tells is the same as ever (`GnuLint.FixResult.TellsAny`): each finding has its turn if its line
is there, the fixes alone make the new bodies of the lines, and what is left alone changes
nothing.

A template is put in only where what was found is still there. A rewrite does not ask. It looks
for a call from the offset on, so it may rewrite another call than the one that was found, and
past the end of the line no answer is defined at all. This is the only way in which fixing goes
wrong, and the only way in which a stale finding is fixed (`GnuLint.fixText_anyFindings`); both
happen (`GnuLint.fixText_anyFindings_stale`).
-/

namespace GnuLint

/-! ### One attempt -/

namespace Attempt

variable {a : Attempt} {fixed : Text}

/-- **What was found is still there**: the line has it where it was found. -/
def Holds (a : Attempt) : Prop :=
  ∃ start after,
    Text.cutAt? a.body a.finding.offset = some (start, a.finding.matched ++ after)

/-- **An attempt runs a rewrite**: its rule names one. -/
def RunsRewrite (registry : Registry) (a : Attempt) : Prop :=
  a.finding.rule.strategy = .transform ∧ (registry.get? a.finding.rule.rewriteName).isSome = true

/-- **A line is what the rewrite of calls of grep makes of it**: a call that begins where the
finding does, or further to the right, has another flag and another pattern. -/
def RewritesCall (a : Attempt) (fixed : Text) : Prop :=
  ∃ (before : Text) (call : Grep.Invocation) (after pattern : Text),
    a.finding.offset ≤ Text.byteLength before ∧
    Grep.toExtended call.quoted.pattern = .ok pattern ∧
    a.body = before ++ call.spelling 'P' call.quoted.pattern ++ after ∧
    fixed = before ++ call.spelling 'E' pattern ++ after

/-- **An attempt is answered unless it runs a rewrite past the end of the line.** -/
theorem isAnswered_iff :
    a.IsAnswered .builtin ↔
      (a.RunsRewrite .builtin → a.finding.offset ≤ Text.byteLength a.body) := by
  rw [IsAnswered, Finding.attempt, RunsRewrite]
  cases a.finding.rule.strategy with
  | replace => simp
  | suggest => simp
  | function => simp
  | transform =>
    dsimp only
    rw [Finding.transform]
    cases hget : Registry.builtin.get? a.finding.rule.rewriteName with
    | none => simp
    | some rewrite =>
      obtain rfl := Registry.eq_rewrite_of_get?_builtin hget
      rw [← Grep.exists_rewrite_eq_ok_iff]
      simp only [Option.isSome_some, and_self, forall_const]
      constructor
      · rintro ⟨answer, hanswer⟩
        obtain ⟨outcome, houtcome, -⟩ := bind_eq_ok_iff.mp hanswer
        exact ⟨outcome, houtcome⟩
      · rintro ⟨outcome, houtcome⟩
        cases outcome with
        | rewritten new => exact ⟨_, bind_eq_ok_iff.mpr ⟨_, houtcome, rfl⟩⟩
        | declined reason => exact ⟨_, bind_eq_ok_iff.mpr ⟨_, houtcome, rfl⟩⟩

/-- The line does not end before what was found, if that is still there. -/
theorem Holds.offset_le (h : a.Holds) : a.finding.offset ≤ Text.byteLength a.body := by
  obtain ⟨start, after, hcut⟩ := h
  obtain ⟨hbody, hlength⟩ := Text.cutAt?_eq_some_iff.mp hcut
  rw [← hlength, hbody]
  exact Text.byteLength_le_of_prefix (List.prefix_append start _)

/-- What was found is still there exactly if the line is cut there. -/
theorem holds_iff : a.Holds ↔ (a.finding.cut? a.body).isSome = true := by
  constructor
  · rintro ⟨start, after, hcut⟩
    rw [Finding.cut?_of_cutAt? hcut]
    rfl
  · intro h
    obtain ⟨⟨start, tail⟩, hcut⟩ := Option.isSome_iff_exists.mp h
    obtain ⟨hcut, hstarts⟩ := Option.filter_eq_some_iff.mp hcut
    obtain ⟨after, hafter⟩ := Option.isSome_iff_exists.mp hstarts
    rw [Text.stripStart?_eq_some_iff.mp hafter] at hcut
    exact ⟨start, after, hcut⟩

instance : Decidable a.Holds := decidable_of_iff' _ holds_iff

/-- **The two ways in which a line is fixed**: by a template where what was found is still there,
or by the rewrite of a call that need not be what was found. -/
theorem holds_or_rewritesCall (h : a.finding.attempt .builtin a.body = .ok (.ok fixed)) :
    a.finding.rule.strategy = .replace ∧ a.Holds ∨
      a.RunsRewrite .builtin ∧ a.RewritesCall fixed := by
  rcases Finding.cases_of_attempt h with ⟨hstrategy, template, start, tail, -, hcut, -⟩ |
    ⟨hstrategy, rewrite, hget, houtcome, -⟩
  · refine Or.inl ⟨hstrategy, holds_iff.mpr ?_⟩
    rw [hcut]
    rfl
  · obtain rfl := Registry.eq_rewrite_of_get?_builtin hget
    refine Or.inr ⟨⟨hstrategy, ?_⟩, Grep.exists_call_of_rewrite houtcome⟩
    rw [hget]
    rfl

end Attempt

/-! ### All findings -/

variable {text : Text} {fs : List Finding} {validator : Validator} {path : Path}
  {result : FixResult}

/-- The findings on lines that a text does not have. -/
def Findings.offText (text : Text) (fs : List Finding) : List Finding :=
  onLine 0 fs ++ fs.filter ((Text.pieces text).length < ·.line)

/-- **What a result tells about findings of any origin.** -/
structure FixResult.TellsAny (result : FixResult) (text : Text) (fs : List Finding) : Prop where
  /-- The findings on lines of the text have their turns, and each is either fixed or left
  alone; the others are left alone. -/
  tells : ∃ left, Tells .builtin (attempts .builtin text fs)
      (Findings.onLines 1 (Text.pieces text).length fs) result.applied left ∧
    result.unresolved.Perm (left ++ pastEnd (Findings.offText text fs))
  /-- The fixes make the new bodies of the lines out of the old ones, and what is left alone has
  no part in it. -/
  fixes : ∃ bodies, FixesPieces .builtin fs 1 (Text.pieces text) bodies result.applied ∧
    result.candidate =
      if result.applied = [] then none else some (Text.withBodies (Text.pieces text) bodies)
  /-- The text to write is the old one or the candidate. -/
  content : result.content = text ∨ result.candidate = some result.content
  /-- What is fixed is still there, or a call is rewritten. -/
  applied : ∀ a ∈ attempts .builtin text fs, ∀ record, a.applied? .builtin = some record →
    a.finding.rule.strategy = .replace ∧ a.Holds ∨
      a.RunsRewrite .builtin ∧ a.RewritesCall record.fixed

/-- A record of a fix gives the line that the attempt gave. -/
theorem Attempt.attempt_of_applied? {registry : Registry} {a : Attempt} {record : Applied}
    (h : a.applied? registry = some record) :
    a.finding.attempt registry a.body = .ok (.ok record.fixed) := by
  rw [applied?] at h
  split at h
  · rename_i fixed hfixed
    rw [hfixed, ← Option.some.inj h]
    rfl
  · cases h

theorem Findings.perm_offText (text : Text) (fs : List Finding) :
    (offText text (inOrder fs)).Perm (offText text fs) :=
  ((perm_inOrder fs).filter _).append ((perm_inOrder fs).filter _)

/-- The records of a result are those of the attempts, and of findings on other lines. -/
theorem exists_tells_of_fixText {registry : Registry}
    (h : fixText registry validator path text fs = .ok result) :
    ∃ left, Tells registry (attempts registry text fs)
        (Findings.onLines 1 (Text.pieces text).length fs) result.applied left ∧
      result.unresolved.Perm (left ++ pastEnd (Findings.offText text fs)) := by
  obtain ⟨fixed, hfixed, rfl⟩ := judge_of_fixText h
  obtain ⟨part, hpart, hwhole⟩ := bind_eq_ok_iff.mp hfixed
  obtain rfl := Except.ok.inj hwhole
  obtain ⟨part', hpart', htells⟩ := fixPieces_of_answered (answered_of_fixPieces hpart)
  obtain rfl := Except.ok.inj (hpart'.symm.trans hpart)
  -- the verdict keeps the records, and the lines that are not there come last
  obtain ⟨happlied, hunresolved⟩ := FixResult.records_judge validator path text _
  rw [happlied, hunresolved]
  refine ⟨part'.unresolved, htells.perm ((Findings.perm_inOrder fs).filter _), ?_⟩
  have hoff : (pastEnd (Findings.offText text (Findings.inOrder fs))).Perm
      (pastEnd (Findings.offText text fs)) := (Findings.perm_offText text fs).map _
  refine List.Perm.trans ?_ (hoff.append_left part'.unresolved)
  rw [Findings.offText, pastEnd, pastEnd, pastEnd, List.map_append, ← List.append_assoc]
  exact List.perm_append_comm.append_right _

/-- What the verdict makes of a text that was fixed: without a fix there is no candidate, and
the text to write is the old one or the candidate. -/
theorem FixResult.candidate_judge (validator : Validator) (path : Path) (text : Text)
    (fixed : FixedPart Text) :
    (judge validator path text fixed).candidate =
        (if fixed.applied = [] then none else some fixed.text) ∧
      ((judge validator path text fixed).content = text ∨
        (judge validator path text fixed).candidate =
          some (judge validator path text fixed).content) := by
  rcases judge_cases validator path text fixed with
    ⟨hnil, hjudge⟩ | ⟨hsome, -, hjudge⟩ | ⟨rejection, hsome, -, hjudge⟩
  · rw [hjudge, if_pos hnil]
    exact ⟨rfl, Or.inl rfl⟩
  · rw [hjudge, if_neg hsome]
    exact ⟨rfl, Or.inr rfl⟩
  · rw [hjudge, if_neg hsome]
    exact ⟨rfl, Or.inl rfl⟩

theorem FixResult.tellsAny_of_fixText
    (h : fixText .builtin validator path text fs = .ok result) : result.TellsAny text fs := by
  have htells := exists_tells_of_fixText h
  obtain ⟨fixed, hfixed, rfl⟩ := judge_of_fixText h
  obtain ⟨part, hpart, hwhole⟩ := bind_eq_ok_iff.mp hfixed
  obtain ⟨bodies, hbodies, htext⟩ := fixesPieces_of_fixPieces hpart
  obtain rfl := Except.ok.inj hwhole
  obtain ⟨hcandidate, hcontent⟩ := candidate_judge validator path text
    ⟨part.text.flatten, part.applied, _⟩
  refine ⟨htells, ⟨bodies, ?_, ?_⟩, hcontent, fun a _ record hrecord =>
    Attempt.holds_or_rewritesCall (Attempt.attempt_of_applied? hrecord)⟩
  · rw [(records_judge validator path text _).1]
    exact hbodies
  · rw [hcandidate, (records_judge validator path text _).1, ← htext]

/-- **Fixing findings wherever they may come from.** There is a result exactly if no rewrite is
run past the end of its line; it tells what was done about each finding. If what was found is
still there whenever a rewrite is run, then there is a result, and whatever is fixed was still
there. -/
theorem fixText_anyFindings (text : Text) (fs : List Finding) (validator : Validator)
    (path : Path) :
    ((∃ result, fixText .builtin validator path text fs = .ok result) ↔
        ∀ a ∈ attempts .builtin text fs, a.RunsRewrite .builtin →
          a.finding.offset ≤ Text.byteLength a.body) ∧
      (∀ result, fixText .builtin validator path text fs = .ok result →
        result.TellsAny text fs) ∧
      ((∀ a ∈ attempts .builtin text fs, a.RunsRewrite .builtin → a.Holds) →
        (∃ result, fixText .builtin validator path text fs = .ok result) ∧
          ∀ a ∈ attempts .builtin text fs, (a.applied? .builtin).isSome = true → a.Holds) := by
  have hiff : (∃ result, fixText .builtin validator path text fs = .ok result) ↔
      ∀ a ∈ attempts .builtin text fs, a.RunsRewrite .builtin →
        a.finding.offset ≤ Text.byteLength a.body :=
    exists_fixText_iff.trans
      (forall₂_congr fun a _ => Attempt.isAnswered_iff)
  refine ⟨hiff, fun result => FixResult.tellsAny_of_fixText, fun hholds => ⟨?_, ?_⟩⟩
  · exact hiff.mpr fun a ha hruns => (hholds a ha hruns).offset_le
  · intro a ha happlied
    obtain ⟨record, hrecord⟩ := Option.isSome_iff_exists.mp happlied
    rcases Attempt.holds_or_rewritesCall (Attempt.attempt_of_applied? hrecord) with
      ⟨-, hthere⟩ | ⟨hruns, -⟩
    · exact hthere
    · exact hholds a ha hruns

/-- The definition of a rule for calls of grep with a Perl pattern. -/
def Definition.perlCall : Definition where
  id := "perl-call"
  name := "A Perl pattern"
  pattern := "grep -P"
  strategy := some "transform"
  rewrite := some Registry.grepName

/-- A finding of such a call at the beginning of a line. -/
def Finding.firstCall : Finding where
  rule := (Rule.ofDefinition .perlCall).toOption.get (by decide +kernel)
  file := .ofString "script.sh"
  line := 1
  column := 1
  content := "grep -P 'a' x".toList
  matched := "grep -P".toList

/-- A finding of such a call further to the right. -/
def Finding.laterCall : Finding :=
  { Finding.firstCall with column := 9, content := "ls -la; grep -P 'a' x".toList }

/-- **A rewrite does not see whether its finding is stale.** In a line that has become shorter
than where the call was found, no answer is defined; and where a call was found at the beginning
of a line, another one further to the right is rewritten. -/
theorem fixText_anyFindings_stale :
    Finding.laterCall.rule.findingOn? (.ofString "script.sh") 1 "ls -la; grep -P 'a' x".toList =
        some .laterCall ∧
      fixText .builtin (fun _ => .ok ()) (.ofString "script.sh") "ls\n".toList [.laterCall] =
        .error .offsetPastEnd ∧
      Finding.firstCall.rule.findingOn? (.ofString "script.sh") 1 "grep -P 'a' x".toList =
        some .firstCall ∧
      ∃ a ∈ attempts .builtin "ls -la; grep -P 'a' x\n".toList [.firstCall], ¬a.Holds ∧
        a.applied? .builtin =
          some (Finding.firstCall.applied "ls -la; grep -P 'a' x".toList
            "ls -la; grep -E 'a' x".toList) := by
  refine ⟨by decide +kernel, by decide +kernel, by decide +kernel,
    ⟨.firstCall, "ls -la; grep -P 'a' x".toList⟩, ?_⟩
  decide +kernel

end GnuLint
