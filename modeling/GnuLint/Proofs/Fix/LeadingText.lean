import GnuLint.Proofs.Fix.Attempts
import GnuLint.Proofs.Fix.FixedLines
import GnuLint.Proofs.Text.Beginning

/-!
# What stands before a fix

A fix leaves alone what stands before its finding. For a template this is how a line is put
together again; a rewrite is handed the whole line and has to be trusted
(`GnuLint.Rewrite.KeepsStart`), and the rewrites that come with the program can be
(`GnuLint.Registry.keepsStart_builtin`).

On a line, findings are fixed from the right to the left. The invariant is that a finding
that still waits for its turn has all text up to a place of its own as it was at first: up
to the column where it begins, which is what a fix needs to be defined, or up to the end of
what was found, which is what a template needs to find it again. Both are the same argument,
with another place that a finding reaches to (`GnuLint.Findings.FromRight`): a fix further to
the right leaves the text up to its own column alone, and no finding that is still waiting
reaches beyond it (`GnuLint.agreeUpTo_of_mem_lineAttempts`).
-/

namespace GnuLint

open Text (AgreeUpTo)

/-! ### Rewrites -/

/-- **A rewrite keeps what stands before** the offset that it is given: it gives an answer
wherever a line can be cut, and what it makes of the line begins in the same way. -/
def Rewrite.KeepsStart (rewrite : Rewrite) : Prop :=
  ∀ start tail, ∃ outcome, rewrite (start ++ tail) (Text.byteLength start) = .ok outcome ∧
    ∀ fixed, outcome = .rewritten fixed → start <+: fixed

/-- Rewrites all of which keep what stands before. -/
def Registry.KeepsStart (registry : Registry) : Prop :=
  ∀ name rewrite, registry.get? name = some rewrite → rewrite.KeepsStart

/-- **The rewrite of calls of grep keeps what stands before.** -/
theorem Grep.keepsStart_rewrite : Rewrite.KeepsStart Grep.rewrite := by
  intro start tail
  cases hfind : find? tail with
  | none =>
    refine ⟨.declined noCall, ?_, ?_⟩
    · simp only [rewrite, cutFrom?_byteLength, hfind]
    · rintro fixed ⟨⟩
  | some found =>
    obtain ⟨before, call, after⟩ := found
    cases hpattern : toExtended call.quoted.pattern with
    | error construct =>
      refine ⟨.declined construct.message, ?_, ?_⟩
      · simp only [rewrite, cutFrom?_byteLength, hfind, hpattern]
      · rintro fixed ⟨⟩
    | ok pattern =>
      refine ⟨.rewritten (start ++ before ++ call.spelling 'E' pattern ++ after), ?_, ?_⟩
      · simp only [rewrite, cutFrom?_byteLength, hfind, hpattern]
      · intro fixed h
        rw [← Outcome.rewritten.inj h, List.append_assoc, List.append_assoc]
        exact List.prefix_append _ _

/-- **The rewrites that come with the program keep what stands before.** -/
theorem Registry.keepsStart_builtin : builtin.KeepsStart := by
  intro name rewrite h
  obtain rfl := eq_rewrite_of_get?_builtin h
  exact Grep.keepsStart_rewrite

/-! ### One finding -/

namespace Finding

variable {f : Finding} {registry : Registry} {line start tail fixed : Text}

theorem prefix_of_replace (hcut : Text.cutAt? line f.offset = some (start, tail))
    (h : f.replace line = .ok fixed) : start <+: fixed := by
  rw [replace] at h
  split at h
  · cases h
  split at h
  · cases h
  rename_i start' tail' hcut'
  obtain ⟨new, -, rfl⟩ := map_eq_ok_iff.mp h
  have hsame := (Option.filter_eq_some_iff.mp hcut').1
  rw [hcut] at hsame
  obtain ⟨rfl, -⟩ := Prod.mk.inj (Option.some.inj hsame)
  exact List.prefix_append _ _

theorem transform_of_cutAt? (hregistry : registry.KeepsStart)
    (hcut : Text.cutAt? line f.offset = some (start, tail)) :
    ∃ answer, f.transform registry line = .ok answer ∧
      ∀ fixed, answer = .ok fixed → start <+: fixed := by
  rw [transform]
  cases hget : registry.get? f.rule.rewriteName with
  | none =>
    refine ⟨_, rfl, ?_⟩
    rintro fixed ⟨⟩
  | some rewrite =>
    obtain ⟨rfl, hlength⟩ := Text.cutAt?_eq_some_iff.mp hcut
    obtain ⟨outcome, houtcome, hkeeps⟩ := hregistry _ _ hget start tail
    rw [← hlength]
    cases outcome with
    | rewritten new =>
      refine ⟨changed .sameRewrite (start ++ tail) new, ?_, fun fixed h => ?_⟩
      · exact bind_eq_ok_iff.mpr ⟨_, houtcome, rfl⟩
      · rw [(changed_eq_ok_iff.mp h).2]
        exact hkeeps new rfl
    | declined reason =>
      refine ⟨.error (.declined reason), bind_eq_ok_iff.mpr ⟨_, houtcome, rfl⟩, ?_⟩
      rintro fixed ⟨⟩

/-- **An attempt is answered where the line can be cut**, and a fix leaves the text up to
the cut alone. -/
theorem attempt_of_cutAt? (hregistry : registry.KeepsStart)
    (hcut : Text.cutAt? line f.offset = some (start, tail)) :
    ∃ answer, f.attempt registry line = .ok answer ∧
      ∀ fixed, answer = .ok fixed → start <+: fixed := by
  rw [attempt]
  cases f.rule.strategy with
  | replace => exact ⟨f.replace line, rfl, fun fixed h => prefix_of_replace hcut h⟩
  | transform => exact transform_of_cutAt? hregistry hcut
  | suggest =>
    refine ⟨_, rfl, ?_⟩
    rintro fixed ⟨⟩
  | function =>
    refine ⟨_, rfl, ?_⟩
    rintro fixed ⟨⟩

/-- **Without a template, a finding is said to be fixable exactly if the attempt to fix it on
its own line succeeds**, and that can be told if the attempt is answered. -/
theorem isFixable_of_ne_replace (hstrategy : f.rule.strategy ≠ .replace) (registry : Registry) :
    f.isFixable registry = (f.attempt registry f.content).map Except.isOk := by
  rw [attempt, isFixable]
  cases h : f.rule.strategy with
  | replace => exact absurd h hstrategy
  | transform =>
    dsimp only
    rw [transform]
    cases registry.get? f.rule.rewriteName with
    | none => rfl
    | some rewrite =>
      dsimp only
      cases rewrite f.content f.offset with
      | error fault => rfl
      | ok outcome =>
        cases outcome with
        | rewritten fixed =>
          refine congrArg Except.ok ?_
          rw [changed]
          by_cases hsame : fixed = f.content
          · simp [hsame, Except.isOk, Except.toBool]
          · simp [hsame, Except.isOk, Except.toBool]
        | declined reason => rfl
  | suggest => rfl
  | function => rfl

/-- Whether a finding would be fixed can be told exactly if the attempt to fix it is answered. -/
theorem exists_attempt_iff :
    (∃ answer, f.attempt registry f.content = .ok answer) ↔
      ∃ fixable, f.isFixable registry = .ok fixable := by
  by_cases hstrategy : f.rule.strategy = .replace
  · rw [attempt, isFixable, hstrategy]
    simp
  · simp only [isFixable_of_ne_replace hstrategy, map_eq_ok_iff]
    constructor
    · rintro ⟨answer, hanswer⟩
      exact ⟨_, answer, hanswer, rfl⟩
    · rintro ⟨-, answer, hanswer, -⟩
      exact ⟨answer, hanswer⟩

/-- Whether a finding would be fixed can be told of every finding that stands on its own
line. -/
theorem isFixable_of_cutAt? (hregistry : registry.KeepsStart)
    (hcut : Text.cutAt? f.content f.offset = some (start, tail)) :
    ∃ fixable, f.isFixable registry = .ok fixable := by
  obtain ⟨answer, hanswer, -⟩ := attempt_of_cutAt? hregistry hcut
  exact exists_attempt_iff.mp ⟨answer, hanswer⟩

end Finding

/-! ### One line -/

/-- **Findings come from the right** on a line: the line can be cut where each of them
begins, and none reaches beyond where those before it begin. -/
structure Findings.FromRight (reach : Finding → Nat) (line : Text) (fs : List Finding) :
    Prop where
  /-- The line can be cut where a finding begins. -/
  exists_cutAt? : ∀ f ∈ fs, ∃ start tail, Text.cutAt? line f.offset = some (start, tail)
  /-- A finding reaches at least to where it begins. -/
  offset_le : ∀ f ∈ fs, f.offset ≤ reach f
  /-- A finding ends before those further to the right begin. -/
  pairwise : fs.Pairwise fun f g => reach g ≤ f.offset

theorem Findings.FromRight.tail {reach : Finding → Nat} {line : Text} {f : Finding}
    {fs : List Finding} (h : FromRight reach line (f :: fs)) : FromRight reach line fs :=
  ⟨(List.forall_mem_cons.mp h.exists_cutAt?).2, (List.forall_mem_cons.mp h.offset_le).2,
    (List.pairwise_cons.mp h.pairwise).2⟩

variable {registry : Registry} {reach : Finding → Nat} {line body : Text} {fs : List Finding}
  {a : Attempt}

/-- **When the turn of a finding comes, the line is as it was up to where the finding
reaches.** -/
theorem agreeUpTo_of_mem_lineAttempts (hregistry : registry.KeepsStart)
    (hfs : Findings.FromRight reach line fs) (hbody : ∀ f ∈ fs, AgreeUpTo (reach f) line body)
    (ha : a ∈ lineAttempts registry fs body) :
    a.finding ∈ fs ∧ AgreeUpTo (reach a.finding) line a.body := by
  induction fs generalizing body with
  | nil => cases ha
  | cons f fs ih =>
    obtain ⟨hf, hrest⟩ := List.forall_mem_cons.mp hbody
    obtain ⟨start, tail, hcut⟩ := hfs.exists_cutAt? f List.mem_cons_self
    have hoffset := hfs.offset_le f List.mem_cons_self
    -- the body can be cut where the line can, so the attempt is answered
    obtain ⟨rest, hcut'⟩ := (hf.mono hoffset).exists_cutAt? hcut
    obtain ⟨answer, hanswer, hkeeps⟩ := Finding.attempt_of_cutAt? hregistry hcut'
    cases answer with
    | ok fixed =>
      rw [lineAttempts_of_fixed hanswer] at ha
      rcases List.mem_cons.mp ha with rfl | ha
      · exact ⟨List.mem_cons_self, hf⟩
      -- the fixed line shares all text before `f` with the line, and no other finding of
      -- those that wait reaches beyond it
      · obtain ⟨hline, hlength⟩ := Text.cutAt?_eq_some_iff.mp hcut
        have hstart : start <+: line := hline ▸ List.prefix_append start tail
        have hagree : AgreeUpTo f.offset line fixed :=
          hlength ▸ AgreeUpTo.of_prefix hstart (hkeeps fixed rfl)
        have hwaiting : ∀ g ∈ fs, AgreeUpTo (reach g) line fixed := fun g hg =>
          hagree.mono ((List.pairwise_cons.mp hfs.pairwise).1 g hg)
        obtain ⟨hmem, hreach⟩ := ih hfs.tail hwaiting ha
        exact ⟨List.mem_cons_of_mem f hmem, hreach⟩
    | error reason =>
      rw [lineAttempts_of_left hanswer] at ha
      rcases List.mem_cons.mp ha with rfl | ha
      · exact ⟨List.mem_cons_self, hf⟩
      · obtain ⟨hmem, hreach⟩ := ih hfs.tail hrest ha
        exact ⟨List.mem_cons_of_mem f hmem, hreach⟩

end GnuLint
