import GnuLint.Proofs.Fix.Accounting

/-!
# The attempts made while a script is fixed

The result of fixing a script does not say what a line looked like when the turn of a
finding came. The attempts do: each is a finding together with the body of its line as it
is then (`GnuLint.attempts`). They follow fixing step by step and stop where it stops, at
the first attempt for which no answer is defined. If every attempt is answered, fixing
gives a result, every finding on a line of the script has had its turn, and the records are
those of the attempts one by one (`GnuLint.fixText_of_answered`).

So whatever is to be said of fixing can be said of its attempts, and of those on one line at
a time (`GnuLint.mem_attempts`).
-/

namespace GnuLint

/-- **A finding whose turn has come**, and the body of its line as it is then. -/
structure Attempt where
  /-- The finding. -/
  finding : Finding
  /-- The body of the line, with the fixes before. -/
  body : Text
  deriving DecidableEq

namespace Attempt

/-- An attempt is answered: the line is fixed or left alone. -/
def IsAnswered (registry : Registry) (a : Attempt) : Prop :=
  ∃ answer, a.finding.attempt registry a.body = .ok answer

/-- The record of the fix, if the line is fixed. -/
def applied? (registry : Registry) (a : Attempt) : Option Applied :=
  match a.finding.attempt registry a.body with
  | .ok (.ok fixed) => some (a.finding.applied a.body fixed)
  | _ => none

/-- The record of the finding, if it is left alone. -/
def unresolved? (registry : Registry) (a : Attempt) : Option Unresolved :=
  match a.finding.attempt registry a.body with
  | .ok (.error reason) => some (a.finding.unresolved reason)
  | _ => none

variable {registry : Registry} {a : Attempt}

theorem records_of_fixed {fixed : Text} (h : a.finding.attempt registry a.body = .ok (.ok fixed)) :
    a.applied? registry = some (a.finding.applied a.body fixed) ∧
      a.unresolved? registry = none := by
  rw [applied?, unresolved?, h]
  exact ⟨rfl, rfl⟩

theorem records_of_left {reason : Reason}
    (h : a.finding.attempt registry a.body = .ok (.error reason)) :
    a.applied? registry = none ∧
      a.unresolved? registry = some (a.finding.unresolved reason) := by
  rw [applied?, unresolved?, h]
  exact ⟨rfl, rfl⟩

/-- A record of a finding that was left alone gives the reason that the attempt gave. -/
theorem exists_reason {u : Unresolved} (h : a.unresolved? registry = some u) :
    ∃ reason, a.finding.attempt registry a.body = .ok (.error reason) ∧
      u = a.finding.unresolved reason := by
  rw [unresolved?] at h
  split at h
  · rename_i reason hreason
    exact ⟨reason, hreason, (Option.some.inj h).symm⟩
  · cases h

end Attempt

/-- **Some attempts tell what was done about findings**: each finding has one attempt, and
the records are those of the attempts. -/
structure Tells (registry : Registry) (attempts : List Attempt) (fs : List Finding)
    (applied : List Applied) (unresolved : List Unresolved) : Prop where
  /-- Each finding has its turn, as often as it comes up. -/
  findings : (attempts.map Attempt.finding).Perm fs
  /-- The fixes are those of the attempts. -/
  applied_eq : applied = attempts.filterMap (·.applied? registry)
  /-- So is what was left alone. -/
  unresolved_eq : unresolved = attempts.filterMap (·.unresolved? registry)

namespace Tells

variable {registry : Registry} {attempts attempts' : List Attempt} {fs gs : List Finding}
  {applied applied' : List Applied} {unresolved unresolved' : List Unresolved} {a : Attempt}

theorem nil : Tells registry [] [] [] [] := ⟨.refl _, rfl, rfl⟩

theorem cons_fixed {fixed : Text} (ha : a.finding.attempt registry a.body = .ok (.ok fixed))
    (h : Tells registry attempts fs applied unresolved) :
    Tells registry (a :: attempts) (a.finding :: fs) (a.finding.applied a.body fixed :: applied)
      unresolved := by
  obtain ⟨hfixed, hleft⟩ := Attempt.records_of_fixed ha
  refine ⟨h.findings.cons _, ?_, ?_⟩
  · rw [List.filterMap_cons_some hfixed, h.applied_eq]
  · rw [List.filterMap_cons_none hleft, h.unresolved_eq]

theorem cons_left {reason : Reason}
    (ha : a.finding.attempt registry a.body = .ok (.error reason))
    (h : Tells registry attempts fs applied unresolved) :
    Tells registry (a :: attempts) (a.finding :: fs) applied
      (a.finding.unresolved reason :: unresolved) := by
  obtain ⟨hfixed, hleft⟩ := Attempt.records_of_left ha
  refine ⟨h.findings.cons _, ?_, ?_⟩
  · rw [List.filterMap_cons_none hfixed, h.applied_eq]
  · rw [List.filterMap_cons_some hleft, h.unresolved_eq]

theorem append (h : Tells registry attempts fs applied unresolved)
    (h' : Tells registry attempts' gs applied' unresolved') :
    Tells registry (attempts ++ attempts') (fs ++ gs) (applied ++ applied')
      (unresolved ++ unresolved') := by
  refine ⟨?_, ?_, ?_⟩
  · rw [List.map_append]
    exact h.findings.append h'.findings
  · rw [List.filterMap_append, h.applied_eq, h'.applied_eq]
  · rw [List.filterMap_append, h.unresolved_eq, h'.unresolved_eq]

theorem perm (h : Tells registry attempts fs applied unresolved) (hfs : fs.Perm gs) :
    Tells registry attempts gs applied unresolved :=
  ⟨h.findings.trans hfs, h.applied_eq, h.unresolved_eq⟩

end Tells

variable {registry : Registry} {fs : List Finding} {body : Text} {a : Attempt}

/-! ### One line -/

/-- **The attempts on a line**, from a body on; the findings are those on it, in order. -/
def lineAttempts (registry : Registry) : List Finding → Text → List Attempt
  | [], _ => []
  | f :: fs, body =>
    ⟨f, body⟩ ::
      match f.attempt registry body with
      | .error _ => []
      | .ok (.ok fixed) => lineAttempts registry fs fixed
      | .ok (.error _) => lineAttempts registry fs body

theorem lineAttempts_of_fixed {f : Finding} {fixed : Text}
    (h : f.attempt registry body = .ok (.ok fixed)) (fs : List Finding) :
    lineAttempts registry (f :: fs) body = ⟨f, body⟩ :: lineAttempts registry fs fixed := by
  rw [lineAttempts, h]

theorem lineAttempts_of_left {f : Finding} {reason : Reason}
    (h : f.attempt registry body = .ok (.error reason)) (fs : List Finding) :
    lineAttempts registry (f :: fs) body = ⟨f, body⟩ :: lineAttempts registry fs body := by
  rw [lineAttempts, h]

/-- **A line on which every attempt is answered** is fixed, and the attempts tell how. -/
theorem fixLine_of_answered (h : ∀ a ∈ lineAttempts registry fs body, a.IsAnswered registry) :
    ∃ part, fixLine registry fs body = .ok part ∧
      Tells registry (lineAttempts registry fs body) fs part.applied part.unresolved := by
  induction fs generalizing body with
  | nil => exact ⟨⟨body, [], []⟩, rfl, .nil⟩
  | cons f fs ih =>
    -- the first attempt is answered, and the answer says which body the others start from
    obtain ⟨answer, hanswer⟩ := h ⟨f, body⟩ List.mem_cons_self
    cases answer with
    | ok fixed =>
      rw [lineAttempts_of_fixed hanswer] at h ⊢
      obtain ⟨rest, hrest, htells⟩ := ih (List.forall_mem_cons.mp h).2
      refine ⟨⟨rest.text, f.applied body fixed :: rest.applied, rest.unresolved⟩, ?_,
        htells.cons_fixed (a := ⟨f, body⟩) hanswer⟩
      exact bind_eq_ok_iff.mpr ⟨.ok fixed, hanswer, bind_eq_ok_iff.mpr ⟨rest, hrest, rfl⟩⟩
    | error reason =>
      rw [lineAttempts_of_left hanswer] at h ⊢
      obtain ⟨rest, hrest, htells⟩ := ih (List.forall_mem_cons.mp h).2
      refine ⟨⟨rest.text, rest.applied, f.unresolved reason :: rest.unresolved⟩, ?_,
        htells.cons_left (a := ⟨f, body⟩) hanswer⟩
      exact bind_eq_ok_iff.mpr ⟨.error reason, hanswer, bind_eq_ok_iff.mpr ⟨rest, hrest, rfl⟩⟩

/-- **A line that is fixed is one on which every attempt is answered.** -/
theorem answered_of_fixLine {part : FixedPart Text} (h : fixLine registry fs body = .ok part) :
    ∀ a ∈ lineAttempts registry fs body, a.IsAnswered registry := by
  induction fs generalizing body part with
  | nil => simp [lineAttempts]
  | cons f fs ih =>
    rcases fixLine_cons_cases h with ⟨fixed, rest, hanswer, hrest, -⟩ |
      ⟨reason, rest, hanswer, hrest, -⟩
    · rw [lineAttempts_of_fixed hanswer]
      exact List.forall_mem_cons.mpr ⟨⟨_, hanswer⟩, ih hrest⟩
    · rw [lineAttempts_of_left hanswer]
      exact List.forall_mem_cons.mpr ⟨⟨_, hanswer⟩, ih hrest⟩

/-! ### All lines -/

/-- The attempts on some pieces of a text, from a line number on; the findings are in
order. -/
def attemptsFrom (registry : Registry) (fs : List Finding) :
    (number : Nat) → List Text → List Attempt
  | _, [] => []
  | number, piece :: pieces =>
    lineAttempts registry (Findings.onLine number fs) (Text.body piece) ++
      attemptsFrom registry fs (number + 1) pieces

/-- **The attempts made while a text is fixed**, in the order in which they are made. -/
def attempts (registry : Registry) (text : Text) (fs : List Finding) : List Attempt :=
  attemptsFrom registry (Findings.inOrder fs) 1 (Text.pieces text)

theorem mem_attemptsFrom {number : Nat} {pieces : List Text} :
    a ∈ attemptsFrom registry fs number pieces ↔
      ∃ i piece, pieces[i]? = some piece ∧
        a ∈ lineAttempts registry (Findings.onLine (number + i) fs) (Text.body piece) := by
  induction pieces generalizing number with
  | nil => simp [attemptsFrom]
  | cons piece pieces ih =>
    rw [attemptsFrom, List.mem_append, ih]
    constructor
    · rintro (hhere | ⟨i, p, hp, ha⟩)
      · exact ⟨0, piece, rfl, hhere⟩
      · refine ⟨i + 1, p, hp, ?_⟩
        rwa [← Nat.add_assoc, Nat.add_right_comm]
    · rintro ⟨_ | i, p, hp, ha⟩
      · obtain rfl : piece = p := Option.some.inj hp
        exact Or.inl ha
      · refine Or.inr ⟨i, p, hp, ?_⟩
        rwa [← Nat.add_assoc, Nat.add_right_comm] at ha

/-- **The attempts on a text are those on its lines**, each from the body that the line has
in the text. -/
theorem mem_attempts {text : Text} :
    a ∈ attempts registry text fs ↔
      ∃ i piece, (Text.pieces text)[i]? = some piece ∧
        a ∈ lineAttempts registry (Findings.inOrder (Findings.onLine (1 + i) fs))
          (Text.body piece) := by
  simp only [attempts, mem_attemptsFrom, Findings.onLine_inOrder]

/-- Pieces on which every attempt is answered are fixed, and the attempts tell how. -/
theorem fixPieces_of_answered {number : Nat} {pieces : List Text}
    (h : ∀ a ∈ attemptsFrom registry fs number pieces, a.IsAnswered registry) :
    ∃ part, fixPieces registry fs number pieces = .ok part ∧
      Tells registry (attemptsFrom registry fs number pieces)
        (Findings.onLines number pieces.length fs) part.applied part.unresolved := by
  induction pieces generalizing number with
  | nil =>
    refine ⟨⟨[], [], []⟩, rfl, Tells.nil.perm (List.Perm.of_eq (Eq.symm ?_))⟩
    exact Findings.onLines_zero number fs
  | cons piece pieces ih =>
    obtain ⟨hhere, hlater⟩ := List.forall_mem_append.mp h
    obtain ⟨line, hline, htells⟩ := fixLine_of_answered hhere
    obtain ⟨rest, hrest, htells'⟩ := ih hlater
    refine ⟨_, bind_eq_ok_iff.mpr ⟨line, hline, bind_eq_ok_iff.mpr ⟨rest, hrest, rfl⟩⟩, ?_⟩
    exact (htells.append htells').perm (Findings.perm_onLines_succ number pieces.length fs)

/-- Pieces that are fixed are pieces on which every attempt is answered. -/
theorem answered_of_fixPieces {number : Nat} {pieces : List Text} {part : FixedPart (List Text)}
    (h : fixPieces registry fs number pieces = .ok part) :
    ∀ a ∈ attemptsFrom registry fs number pieces, a.IsAnswered registry := by
  induction pieces generalizing number part with
  | nil => simp [attemptsFrom]
  | cons piece pieces ih =>
    obtain ⟨line, rest, hline, hrest, -⟩ := fixPieces_cons h
    exact List.forall_mem_append.mpr ⟨answered_of_fixLine hline, ih hrest⟩

/-- **There is a result exactly if every attempt is answered**, wherever the findings are. -/
theorem exists_fixText_iff {text : Text} {validator : Validator} {path : Path} :
    (∃ result, fixText registry validator path text fs = .ok result) ↔
      ∀ a ∈ attempts registry text fs, a.IsAnswered registry := by
  constructor
  · rintro ⟨result, hresult⟩
    obtain ⟨fixed, hfixed, -⟩ := judge_of_fixText hresult
    obtain ⟨part, hpart, -⟩ := bind_eq_ok_iff.mp hfixed
    exact answered_of_fixPieces hpart
  · intro h
    obtain ⟨part, hpart, -⟩ := fixPieces_of_answered h
    exact ⟨_, bind_eq_ok_iff.mpr ⟨_, bind_eq_ok_iff.mpr ⟨part, hpart, rfl⟩, rfl⟩⟩

section Inside

variable {text : Text}

/-- Findings that are all on lines of a text are the findings on these lines. -/
theorem Findings.onLines_eq_self {count : Nat} (h : ∀ f ∈ fs, 1 ≤ f.line ∧ f.line ≤ count) :
    onLines 1 count fs = fs := by
  refine List.filter_eq_self.mpr fun f hf => ?_
  have hline := h f hf
  simp only [Bool.and_eq_true, decide_eq_true_eq]
  omega

/-- If no finding lies past the end of a text, fixing it is fixing its pieces. -/
theorem fixUnchecked_of_fixPieces {part : FixedPart (List Text)}
    (hlines : ∀ f ∈ fs, 1 ≤ f.line ∧ f.line ≤ (Text.pieces text).length)
    (h : fixPieces registry (Findings.inOrder fs) 1 (Text.pieces text) = .ok part) :
    fixUnchecked registry text fs =
      .ok ⟨part.text.flatten, part.applied, part.unresolved⟩ := by
  have hinside : ∀ f ∈ Findings.inOrder fs, 1 ≤ f.line ∧ f.line ≤ (Text.pieces text).length :=
    fun f hf => hlines f ((Findings.perm_inOrder fs).mem_iff.mp hf)
  have hbefore : Findings.onLine 0 (Findings.inOrder fs) = [] := by
    refine List.filter_eq_nil_iff.mpr fun f hf => ?_
    have hline := hinside f hf
    simp only [decide_eq_true_eq]
    omega
  have hafter : (Findings.inOrder fs).filter ((Text.pieces text).length < ·.line) = [] := by
    refine List.filter_eq_nil_iff.mpr fun f hf => ?_
    have hline := hinside f hf
    simp only [decide_eq_true_eq]
    omega
  refine bind_eq_ok_iff.mpr ⟨part, h, ?_⟩
  rw [hbefore, hafter]
  simp [pastEnd, pure, Except.pure]

/-- **Fixing a text all of whose findings are on lines of it**: if every attempt is
answered, there is a result, and the attempts tell what was done. -/
theorem fixText_of_answered
    (hlines : ∀ f ∈ fs, 1 ≤ f.line ∧ f.line ≤ (Text.pieces text).length)
    (h : ∀ a ∈ attempts registry text fs, a.IsAnswered registry)
    (validator : Validator) (path : Path) :
    ∃ result, fixText registry validator path text fs = .ok result ∧
      Tells registry (attempts registry text fs) fs result.applied result.unresolved := by
  obtain ⟨part, hpart, htells⟩ := fixPieces_of_answered h
  have hfixed := fixUnchecked_of_fixPieces hlines hpart
  refine ⟨_, bind_eq_ok_iff.mpr ⟨_, hfixed, rfl⟩, ?_⟩
  obtain ⟨happlied, hunresolved⟩ := FixResult.records_judge validator path text
    ⟨part.text.flatten, part.applied, part.unresolved⟩
  rw [happlied, hunresolved]
  refine htells.perm (List.Perm.trans (List.Perm.of_eq ?_) (Findings.perm_inOrder fs))
  exact Findings.onLines_eq_self fun f hf => hlines f ((Findings.perm_inOrder fs).mem_iff.mp hf)

end Inside

end GnuLint
