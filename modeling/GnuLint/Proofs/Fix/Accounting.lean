import GnuLint.Proofs.Fix.LineLocality
import Mathlib.Data.List.Forall2

/-!
# What becomes of the findings of a script

Fixing a script ends in one of many ways for each finding, and every one of them leaves a
single record: of the fix, or of why there is none. So the findings fall into two parts,
those that were fixed and those that were left alone, and the records tell them one by one
(`GnuLint.Accounted`). Findings that lie past the end of the script, share a line or a
column, or come up twice are no exception.

The verdict comes last and changes no record. It only decides how they are counted, and
whether the text to write is the candidate or the old text, to the last character
(`GnuLint.fixText_accounts`).
-/

namespace GnuLint

/-! ### Findings and their records -/

/-- What a record tells of a finding: where it is, and which rule it is of. -/
structure Mark where
  /-- The number of the line. -/
  line : Nat
  /-- The column. -/
  column : Nat
  /-- The identifier of the rule. -/
  ruleId : String
  deriving DecidableEq, Repr

/-- The mark of a finding. -/
def Finding.mark (f : Finding) : Mark := ⟨f.line, f.column, f.rule.id⟩

/-- The mark in the record of a fix. -/
def Applied.mark (a : Applied) : Mark := ⟨a.line, a.column, a.ruleId⟩

/-- The mark in the record of a finding that was left alone. -/
def Unresolved.mark (u : Unresolved) : Mark := ⟨u.line, u.column, u.ruleId⟩

/-- A fix is that of a finding, and of one that needs no human. -/
def Applied.Records (a : Applied) (f : Finding) : Prop :=
  a.mark = f.mark ∧ f.rule.strategy.isAutomatic = true

theorem Applied.Records.line_eq {a : Applied} {f : Finding} (h : a.Records f) : a.line = f.line :=
  congrArg Mark.line h.1

/-- A record is that of a finding that was left alone. -/
def Unresolved.Records (u : Unresolved) (f : Finding) : Prop :=
  u.mark = f.mark ∧ u.strategy = f.rule.strategy

/-- **Some findings are accounted for**: they fall into those that the fixes record and
those that were left alone, each of them recorded once. -/
def Accounted (fs : List Finding) (applied : List Applied) (unresolved : List Unresolved) :
    Prop :=
  ∃ fixed left : List Finding, (fixed ++ left).Perm fs ∧
    List.Forall₂ Applied.Records applied fixed ∧
    List.Forall₂ Unresolved.Records unresolved left

namespace Accounted

variable {fs gs : List Finding} {applied applied' : List Applied}
  {unresolved unresolved' : List Unresolved}

theorem nil : Accounted [] [] [] := ⟨[], [], .refl _, .nil, .nil⟩

theorem cons_applied {a : Applied} {f : Finding} (ha : a.Records f)
    (h : Accounted fs applied unresolved) : Accounted (f :: fs) (a :: applied) unresolved := by
  obtain ⟨fixed, left, hperm, hfixed, hleft⟩ := h
  exact ⟨f :: fixed, left, hperm.cons f, .cons ha hfixed, hleft⟩

theorem cons_unresolved {u : Unresolved} {f : Finding} (hu : u.Records f)
    (h : Accounted fs applied unresolved) : Accounted (f :: fs) applied (u :: unresolved) := by
  obtain ⟨fixed, left, hperm, hfixed, hleft⟩ := h
  exact ⟨fixed, f :: left, List.perm_middle.trans (hperm.cons f), hfixed, .cons hu hleft⟩

theorem append (h : Accounted fs applied unresolved) (h' : Accounted gs applied' unresolved') :
    Accounted (fs ++ gs) (applied ++ applied') (unresolved ++ unresolved') := by
  obtain ⟨fixed, left, hperm, hfixed, hleft⟩ := h
  obtain ⟨fixed', left', hperm', hfixed', hleft'⟩ := h'
  refine ⟨fixed ++ fixed', left ++ left', ?_, List.rel_append hfixed hfixed',
    List.rel_append hleft hleft'⟩
  refine List.Perm.trans ?_ (hperm.append hperm')
  rw [List.append_assoc, List.append_assoc]
  refine List.Perm.append_left fixed ?_
  rw [← List.append_assoc, ← List.append_assoc]
  exact List.perm_append_comm.append_right left'

theorem perm (h : Accounted fs applied unresolved) (hfs : fs.Perm gs) :
    Accounted gs applied unresolved := by
  obtain ⟨fixed, left, hperm, hfixed, hleft⟩ := h
  exact ⟨fixed, left, hperm.trans hfs, hfixed, hleft⟩

/-- **The marks of the records are those of the findings**, as often as they come up. -/
theorem perm_marks (h : Accounted fs applied unresolved) :
    (applied.map Applied.mark ++ unresolved.map Unresolved.mark).Perm (fs.map Finding.mark) := by
  obtain ⟨fixed, left, hperm, hfixed, hleft⟩ := h
  have hmarks : applied.map Applied.mark = fixed.map Finding.mark := by
    rw [← List.forall₂_eq_eq_eq, List.forall₂_map_left_iff, List.forall₂_map_right_iff]
    exact hfixed.imp fun _ _ ha => ha.1
  have hmarks' : unresolved.map Unresolved.mark = left.map Finding.mark := by
    rw [← List.forall₂_eq_eq_eq, List.forall₂_map_left_iff, List.forall₂_map_right_iff]
    exact hleft.imp fun _ _ hu => hu.1
  rw [hmarks, hmarks', ← List.map_append]
  exact hperm.map Finding.mark

/-- There are as many records as findings. -/
theorem length_add (h : Accounted fs applied unresolved) :
    applied.length + unresolved.length = fs.length := by
  simpa using h.perm_marks.length_eq

end Accounted

/-! ### One line -/

variable {registry : Registry} {fs : List Finding}

/-- A finding that can be fixed needs no human. -/
theorem Finding.isAutomatic_of_attempt {f : Finding} {line fixed : Text}
    (h : f.attempt registry line = .ok (.ok fixed)) : f.rule.strategy.isAutomatic = true := by
  rcases cases_of_attempt h with ⟨hreplace, -⟩ | ⟨htransform, -⟩
  · rw [hreplace]
    rfl
  · rw [htransform]
    rfl

/-- **Fixing a line accounts for the findings on it.** -/
theorem accounted_fixLine {body : Text} {part : FixedPart Text}
    (h : fixLine registry fs body = .ok part) : Accounted fs part.applied part.unresolved := by
  induction fs generalizing body part with
  | nil =>
    rw [← Except.ok.inj h]
    exact .nil
  | cons f fs ih =>
    rcases fixLine_cons_cases h with ⟨fixed, rest, hfixed, hrest, rfl⟩ |
      ⟨reason, rest, -, hrest, rfl⟩
    · exact .cons_applied ⟨rfl, Finding.isAutomatic_of_attempt hfixed⟩ (ih hrest)
    · exact .cons_unresolved ⟨rfl, rfl⟩ (ih hrest)

/-! ### All lines -/

/-- What lies past the end is left alone, and nothing else is done about it. -/
theorem accounted_pastEnd (fs : List Finding) : Accounted fs [] (pastEnd fs) := by
  induction fs with
  | nil => exact .nil
  | cons f fs ih => exact .cons_unresolved ⟨rfl, rfl⟩ ih

namespace Findings

/-- The findings on a number of lines, from one of them on. -/
def onLines (number count : Nat) (fs : List Finding) : List Finding :=
  fs.filter fun f => number ≤ f.line && f.line < number + count

theorem onLines_zero (number : Nat) (fs : List Finding) : onLines number 0 fs = [] := by
  refine List.filter_eq_nil_iff.mpr fun f _ => ?_
  simp only [Bool.and_eq_true, decide_eq_true_eq]
  omega

/-- Findings in two places that have nothing in common. -/
theorem perm_filter_or {p q : Finding → Bool} (h : ∀ f, p f = true → q f = false)
    (fs : List Finding) :
    (fs.filter p ++ fs.filter q).Perm (fs.filter fun f => p f || q f) := by
  induction fs with
  | nil => exact .refl _
  | cons f fs ih =>
    cases hp : p f with
    | true => simpa [hp, h f hp] using ih
    | false =>
      cases hq : q f with
      | true => simpa [hp, hq] using List.perm_middle.trans (ih.cons f)
      | false => simpa [hp, hq] using ih

/-- The findings on some lines are those on the first one and those on the others. -/
theorem perm_onLines_succ (number count : Nat) (fs : List Finding) :
    (onLine number fs ++ onLines (number + 1) count fs).Perm
      (onLines number (count + 1) fs) := by
  have hperm := perm_filter_or (p := fun f => f.line = number)
    (q := fun f => number + 1 ≤ f.line && f.line < number + 1 + count)
    (by simp only [decide_eq_true_eq, Bool.and_eq_false_iff, decide_eq_false_iff_not]; omega) fs
  have hlines : (fun f : Finding => decide (f.line = number) ||
      (decide (number + 1 ≤ f.line) && decide (f.line < number + 1 + count))) =
      fun f => decide (number ≤ f.line) && decide (f.line < number + (count + 1)) := by
    funext f
    rw [Bool.eq_iff_iff]
    simp only [Bool.or_eq_true, Bool.and_eq_true, decide_eq_true_eq]
    omega
  rwa [hlines] at hperm

/-- **A finding is on the line before the first one, on a line of the script, or past its
end.** -/
theorem perm_onLines (count : Nat) (fs : List Finding) :
    (onLine 0 fs ++ onLines 1 count fs ++ fs.filter (count < ·.line)).Perm fs := by
  have hperm := perm_filter_or (p := fun f => 0 ≤ f.line && f.line < 0 + (count + 1))
    (q := fun f => count < f.line)
    (by simp only [decide_eq_false_iff_not, Bool.and_eq_true, decide_eq_true_eq]; omega) fs
  have hall : fs.filter (fun f => (decide (0 ≤ f.line) && decide (f.line < 0 + (count + 1))) ||
      decide (count < f.line)) = fs := by
    rw [List.filter_eq_self]
    intro f _
    simp only [Bool.or_eq_true, Bool.and_eq_true, decide_eq_true_eq]
    omega
  rw [hall] at hperm
  exact ((perm_onLines_succ 0 count fs).append_right _).trans hperm

end Findings

/-- **Fixing some pieces accounts for the findings on their lines.** -/
theorem accounted_fixPieces {number : Nat} {pieces : List Text} {part : FixedPart (List Text)}
    (h : fixPieces registry fs number pieces = .ok part) :
    Accounted (Findings.onLines number pieces.length fs) part.applied part.unresolved := by
  induction pieces generalizing number part with
  | nil =>
    rw [← Except.ok.inj h]
    exact Accounted.nil.perm (List.Perm.of_eq (Findings.onLines_zero number fs).symm)
  | cons piece pieces ih =>
    obtain ⟨line, rest, hline, hrest, rfl⟩ := fixPieces_cons h
    exact ((accounted_fixLine hline).append (ih hrest)).perm
      (Findings.perm_onLines_succ number pieces.length fs)

/-- **Fixing a text accounts for all findings**, wherever they are. -/
theorem accounted_fixUnchecked {text : Text} {fixed : FixedPart Text}
    (h : fixUnchecked registry text fs = .ok fixed) :
    Accounted fs fixed.applied fixed.unresolved := by
  obtain ⟨part, hpart, hfixed⟩ := bind_eq_ok_iff.mp h
  rw [← Except.ok.inj hfixed]
  have hlines := ((accounted_pastEnd (Findings.onLine 0 (Findings.inOrder fs))).append
    (accounted_fixPieces hpart)).append
    (accounted_pastEnd ((Findings.inOrder fs).filter ((Text.pieces text).length < ·.line)))
  rw [List.nil_append, List.append_nil] at hlines
  exact hlines.perm ((Findings.perm_onLines _ _).trans (Findings.perm_inOrder fs))

/-! ### Findings all of which were fixed -/

namespace Accounted

variable {fs : List Finding} {applied : List Applied} {f : Finding} {a : Applied}

/-- If nothing was left alone, the fixes are those of all findings. -/
theorem exists_perm (h : Accounted fs applied []) :
    ∃ fixed : List Finding, fixed.Perm fs ∧ List.Forall₂ Applied.Records applied fixed := by
  obtain ⟨fixed, left, hperm, hfixed, hleft⟩ := h
  cases hleft
  exact ⟨fixed, by rwa [List.append_nil] at hperm, hfixed⟩

theorem exists_applied (h : Accounted fs applied []) (hf : f ∈ fs) :
    ∃ a ∈ applied, a.Records f := by
  obtain ⟨fixed, hperm, hfixed⟩ := h.exists_perm
  obtain ⟨i, hi, rfl⟩ := List.mem_iff_getElem.mp (hperm.mem_iff.mpr hf)
  obtain ⟨hlength, hrecords⟩ := List.forall₂_iff_get.mp hfixed
  exact ⟨_, List.getElem_mem (hlength.symm ▸ hi : i < applied.length), hrecords i _ hi⟩

theorem exists_finding (h : Accounted fs applied []) (ha : a ∈ applied) :
    ∃ f ∈ fs, a.Records f := by
  obtain ⟨fixed, hperm, hfixed⟩ := h.exists_perm
  obtain ⟨i, hi, rfl⟩ := List.mem_iff_getElem.mp ha
  obtain ⟨hlength, hrecords⟩ := List.forall₂_iff_get.mp hfixed
  have hi' : i < fixed.length := hlength ▸ hi
  exact ⟨_, hperm.mem_iff.mp (List.getElem_mem hi'), hrecords i hi hi'⟩

end Accounted

/-! ### The result -/

/-- A result accounts for the findings, whatever the verdict on it is. -/
theorem accounted_fixText {registry : Registry} {validator : Validator} {path : Path}
    {text : Text} {fs : List Finding} {result : FixResult}
    (h : fixText registry validator path text fs = .ok result) :
    Accounted fs result.applied result.unresolved := by
  obtain ⟨fixed, hfixed, rfl⟩ := judge_of_fixText h
  obtain ⟨happlied, hunresolved⟩ := FixResult.records_judge validator path text fixed
  rw [happlied, hunresolved]
  exact accounted_fixUnchecked hfixed

/-- **A result accounts for findings** in a text, and the verdict on it is carried out. -/
structure FixResult.Accounts (result : FixResult) (registry : Registry) (validator : Validator)
    (path : Path) (text : Text) (fs : List Finding) : Prop where
  /-- Each finding is recorded as fixed or as left alone; what is fixed needs no human. -/
  accounted : Accounted fs result.applied result.unresolved
  /-- The marks of the records are those of the findings, as often as they come up. -/
  marks : (result.applied.map Applied.mark ++ result.unresolved.map Unresolved.mark).Perm
    (fs.map Finding.mark)
  /-- All findings are counted. -/
  attempted : result.attemptedCount = fs.length
  /-- They are counted as fixed or as still there, whatever the verdict is. -/
  counted : result.fixedCount + result.unresolvedCount = fs.length
  /-- Without a fix the text stays, and no validator is asked. -/
  untouched : result.applied = [] → result.content = text ∧ result.candidate = none ∧
    ∀ other, fixText registry other path text fs = .ok result
  /-- With a fix there is a candidate, and a verdict on it. -/
  judged : result.applied ≠ [] → ∃ candidate, result.candidate = some candidate ∧
    ((validator candidate = .ok () ∧ result.rejection = none ∧ result.content = candidate) ∨
      ∃ rejection, validator candidate = .error rejection ∧ result.rejection = some rejection ∧
        result.content = text ∧ result.fixedCount = 0 ∧ result.isModified = false)

/-- **Fixing a text loses no finding, counts none twice, and takes back what is rejected.** -/
theorem fixText_accounts {validator : Validator} {path : Path} {text : Text} {result : FixResult}
    (h : fixText registry validator path text fs = .ok result) :
    result.Accounts registry validator path text fs := by
  obtain ⟨fixed, hfixed, hresult⟩ := judge_of_fixText h
  have haccounted := accounted_fixUnchecked hfixed
  have hrecords : result.applied = fixed.applied ∧ result.unresolved = fixed.unresolved := by
    rcases FixResult.judge_cases validator path text fixed with
      ⟨-, hjudge⟩ | ⟨-, -, hjudge⟩ | ⟨_, -, -, hjudge⟩ <;>
    · rw [← hresult, hjudge]
      exact ⟨rfl, rfl⟩
  rw [← hrecords.1, ← hrecords.2] at haccounted
  refine ⟨haccounted, haccounted.perm_marks, haccounted.length_add, ?_, fun hnil => ?_,
    fun hsome => ?_⟩
  · rw [FixResult.fixedCount_add_unresolvedCount]
    exact haccounted.length_add
  · rw [hrecords.1] at hnil
    have hjudge (other : Validator) : FixResult.judge other path text fixed =
        ⟨path, text, fixed.applied, fixed.unresolved, none, none⟩ := by
      rw [FixResult.judge, if_pos (List.isEmpty_iff.mpr hnil)]
    rw [← hresult, hjudge]
    refine ⟨rfl, rfl, fun other => ?_⟩
    rw [fixText, hfixed, ← hjudge other]
    rfl
  · rw [hrecords.1] at hsome
    rcases FixResult.judge_cases validator path text fixed with
      ⟨hnil, -⟩ | ⟨-, hok, hjudge⟩ | ⟨rejection, -, hbad, hjudge⟩
    · exact absurd hnil hsome
    · rw [← hresult, hjudge]
      exact ⟨fixed.text, rfl, Or.inl ⟨hok, rfl, rfl⟩⟩
    · rw [← hresult, hjudge]
      exact ⟨fixed.text, rfl, Or.inr ⟨rejection, hbad, rfl, rfl, rfl, rfl⟩⟩

/-- What is left of a rejected fix: of three findings, one was fixed, one came up twice, and
one lies past the end. -/
def FixResult.rolledBack : FixResult where
  path := .ofString "script.sh"
  content := "x ab\r\nab".toList
  applied := [⟨1, 3, "shortening", "x ab".toList, "x c".toList⟩]
  unresolved :=
    [⟨1, 3, "shortening", .replace, .moved "ab".toList 3⟩,
      ⟨7, 3, "shortening", .replace, .pastEnd 7⟩]
  candidate := some "x c\r\nab".toList
  rejection := some ⟨"no"⟩

/-- The fix is rejected; three findings count as still there, and none as fixed. -/
theorem fixText_accounts_rolledBack :
    fixText ∅ (fun _ => .error ⟨"no"⟩) (.ofString "script.sh") "x ab\r\nab".toList
        [.shortening, { Finding.shortening with line := 7 }, .shortening] = .ok .rolledBack ∧
      FixResult.rolledBack.Accounts ∅ (fun _ => .error ⟨"no"⟩) (.ofString "script.sh")
        "x ab\r\nab".toList
        [.shortening, { Finding.shortening with line := 7 }, .shortening] := by
  have h : fixText ∅ (fun _ => .error ⟨"no"⟩) (.ofString "script.sh") "x ab\r\nab".toList
      [.shortening, { Finding.shortening with line := 7 }, .shortening] = .ok .rolledBack := by
    decide +kernel
  exact ⟨h, fixText_accounts h⟩

end GnuLint
