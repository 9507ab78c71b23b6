import GnuLint.Fix.File
import GnuLint.Proofs.Except

/-!
# How a fixed text is judged

A text in which nothing was fixed is not judged and stays what it is. Otherwise the fixed
text is the candidate, and the validator decides whether it or the old text is written.
-/

namespace GnuLint

variable {registry : Registry} {validator : Validator} {path : Path} {fs : List Finding}

/-- **The three outcomes of a judgement**: nothing to judge, an accepted candidate, or a
rejected one. -/
theorem FixResult.judge_cases (validator : Validator) (path : Path) (text : Text)
    (fixed : FixedPart Text) :
    (fixed.applied = [] ∧ judge validator path text fixed =
        ⟨path, text, fixed.applied, fixed.unresolved, none, none⟩) ∨
      (fixed.applied ≠ [] ∧ validator fixed.text = .ok () ∧ judge validator path text fixed =
        ⟨path, fixed.text, fixed.applied, fixed.unresolved, some fixed.text, none⟩) ∨
      ∃ rejection, fixed.applied ≠ [] ∧ validator fixed.text = .error rejection ∧
        judge validator path text fixed =
          ⟨path, text, fixed.applied, fixed.unresolved, some fixed.text, some rejection⟩ := by
  rw [judge]
  by_cases hnil : fixed.applied = []
  · exact Or.inl ⟨hnil, if_pos (List.isEmpty_iff.mpr hnil)⟩
  rw [if_neg (mt List.isEmpty_iff.mp hnil)]
  cases hjudged : validator fixed.text with
  | ok u => exact Or.inr (Or.inl ⟨hnil, rfl, rfl⟩)
  | error rejection => exact Or.inr (Or.inr ⟨rejection, hnil, rfl, rfl⟩)

/-- The verdict changes no record. -/
theorem FixResult.records_judge (validator : Validator) (path : Path) (text : Text)
    (fixed : FixedPart Text) :
    (judge validator path text fixed).applied = fixed.applied ∧
      (judge validator path text fixed).unresolved = fixed.unresolved := by
  rcases judge_cases validator path text fixed with
    ⟨-, hjudge⟩ | ⟨-, -, hjudge⟩ | ⟨_, -, -, hjudge⟩
  · rw [hjudge]
    exact ⟨rfl, rfl⟩
  · rw [hjudge]
    exact ⟨rfl, rfl⟩
  · rw [hjudge]
    exact ⟨rfl, rfl⟩

/-- Fixing a text fixes it, and then has it judged. -/
theorem judge_of_fixText {text : Text} {result : FixResult}
    (h : fixText registry validator path text fs = .ok result) :
    ∃ fixed, fixUnchecked registry text fs = .ok fixed ∧
      FixResult.judge validator path text fixed = result := by
  obtain ⟨fixed, hfixed, hjudge⟩ := bind_eq_ok_iff.mp h
  exact ⟨fixed, hfixed, Except.ok.inj hjudge⟩

/-- **What is rejected has a fix in it**, and a candidate that the validator rejects. -/
theorem rejected_of_rejection {text : Text} {result : FixResult} {rejection : Rejection}
    (h : fixText registry validator path text fs = .ok result)
    (hrejection : result.rejection = some rejection) :
    result.applied ≠ [] ∧ ∃ candidate, result.candidate = some candidate ∧
      validator candidate = .error rejection := by
  obtain ⟨fixed, -, rfl⟩ := judge_of_fixText h
  rcases FixResult.judge_cases validator path text fixed with
    ⟨-, hjudge⟩ | ⟨-, -, hjudge⟩ | ⟨judged, hsome, hbad, hjudge⟩
  · rw [hjudge] at hrejection
    cases hrejection
  · rw [hjudge] at hrejection
    cases hrejection
  · rw [hjudge] at hrejection ⊢
    obtain rfl : judged = rejection := Option.some.inj hrejection
    exact ⟨hsome, fixed.text, rfl, hbad⟩

/-- **What has a fix in it and is not rejected is accepted**, and it is the text to write. -/
theorem accepted_of_applied {text : Text} {result : FixResult}
    (h : fixText registry validator path text fs = .ok result)
    (hnone : result.rejection = none) (hsome : result.applied ≠ []) :
    result.candidate = some result.content ∧ validator result.content = .ok () := by
  obtain ⟨fixed, -, rfl⟩ := judge_of_fixText h
  rcases FixResult.judge_cases validator path text fixed with
    ⟨hnil, hjudge⟩ | ⟨-, hok, hjudge⟩ | ⟨rejection, -, -, hjudge⟩
  · rw [hjudge] at hsome
    exact absurd hnil hsome
  · rw [hjudge]
    exact ⟨rfl, hok⟩
  · rw [hjudge] at hnone
    cases hnone

/-- Fixing a file reads it, fixes its text, and then has it judged. -/
theorem judge_of_fixFile {disk : Disk} {result : FixResult}
    (h : fixFile registry validator disk path fs = .ok (.ok result)) :
    ∃ text fixed, disk.readText path = .ok text ∧
      fixUnchecked registry text fs = .ok fixed ∧
      FixResult.judge validator path text fixed = result := by
  rw [fixFile] at h
  split at h
  · simp at h
  · rename_i text htext
    obtain ⟨found, hfound, hok⟩ := map_eq_ok_iff.mp h
    obtain rfl : found = result := Except.ok.inj hok
    obtain ⟨fixed, hfixed, hjudge⟩ := judge_of_fixText hfound
    exact ⟨text, fixed, htext, hfixed, hjudge⟩

end GnuLint
