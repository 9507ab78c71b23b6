import GnuLint.Proofs.Fix.Accounting
import GnuLint.Proofs.Fix.DiskSafety

/-!
# Batches that complete

A batch can fall short in many ways without coming to an end: a file cannot be read again, a
finding is left alone, the validator rejects what was made of a file. Or it comes to an end
because a file cannot be written. A batch **completes** if nothing of this happens: each file
is read, all its findings are fixed in a text that the validator accepts, and the text is
written if it has to be, each time on the disk that the file before has left
(`GnuLint.Batch.Completes`). This is said without the records that a batch keeps.

What a batch has done can be read off these records, though: it has completed exactly if each
of its steps is settled (`GnuLint.Batch.completes_iff_of_run`). The reason is that a finding
has one record, so that there are as many fixes as findings only if nothing is left alone, and
that a rejected text has fixes in it, all of which count as left alone.
-/

namespace GnuLint

/-! ### Results -/

/-- **A result settles findings**: all of them were fixed, and if there were any, the
validator accepted the text with the fixes, which is the text to write. -/
structure FixResult.Settles (result : FixResult) (validator : Validator) (fs : List Finding) :
    Prop where
  /-- Each finding was fixed, as often as it came up. -/
  applied : (result.applied.map Applied.mark).Perm (fs.map Finding.mark)
  /-- The text with the fixes was accepted. -/
  accepted : fs ≠ [] →
    result.candidate = some result.content ∧ validator result.content = .ok ()

namespace FixResult

variable {registry : Registry} {validator : Validator} {path : Path} {text : Text}
  {fs : List Finding} {result : FixResult}

namespace Settles

/-- There are as many fixes as findings. -/
theorem length_eq (h : result.Settles validator fs) : result.applied.length = fs.length := by
  simpa using h.applied.length_eq

theorem applied_eq_nil_iff (h : result.Settles validator fs) : result.applied = [] ↔ fs = [] := by
  rw [← List.length_eq_zero_iff, h.length_eq, List.length_eq_zero_iff]

/-- A result that settles findings is not rejected. -/
theorem rejection_eq_none (h : result.Settles validator fs)
    (hfix : fixText registry validator path text fs = .ok result) : result.rejection = none := by
  cases hrejection : result.rejection with
  | none => rfl
  | some rejection =>
    -- the validator would have given two verdicts on one candidate
    obtain ⟨hsome, candidate, hcandidate, hbad⟩ := rejected_of_rejection hfix hrejection
    obtain ⟨hcontent, hok⟩ := h.accepted (mt h.applied_eq_nil_iff.mpr hsome)
    obtain rfl : candidate = result.content :=
      Option.some.inj (hcandidate.symm.trans hcontent)
    cases hbad.symm.trans hok

/-- It has fixes to write exactly if there are findings. -/
theorem isModified_eq_false_iff (h : result.Settles validator fs)
    (hfix : fixText registry validator path text fs = .ok result) :
    result.isModified = false ↔ fs = [] := by
  have hcount : result.fixedCount = fs.length := by
    rw [fixedCount, isRejected, h.rejection_eq_none hfix]
    exact h.length_eq
  rw [isModified, hcount, decide_eq_false_iff_not, Nat.not_lt, Nat.le_zero,
    List.length_eq_zero_iff]

end Settles

/-- **A result settles the findings exactly if none of them is still there.** -/
theorem settles_iff (h : fixText registry validator path text fs = .ok result) :
    result.Settles validator fs ↔ result.unresolvedCount = 0 := by
  have haccounted := accounted_fixText h
  have hcount := haccounted.length_add
  constructor
  · intro hsettles
    have hlength := hsettles.length_eq
    rw [unresolvedCount, isRejected, hsettles.rejection_eq_none h]
    show result.unresolved.length = 0
    omega
  · intro hzero
    cases hrejection : result.rejection with
    | some rejection =>
      -- a rejected text has a fix in it, and this fix counts
      have hpos := List.length_pos_iff.mpr (rejected_of_rejection h hrejection).1
      rw [unresolvedCount, isRejected, hrejection] at hzero
      have hsum : result.unresolved.length + result.applied.length = 0 := hzero
      omega
    | none =>
      rw [unresolvedCount, isRejected, hrejection] at hzero
      have hleft : result.unresolved = [] := List.length_eq_zero_iff.mp hzero
      have hmarks := haccounted.perm_marks
      rw [hleft, List.map_nil, List.append_nil] at hmarks
      refine ⟨hmarks, fun hfs => accepted_of_applied h hrejection fun hnil => hfs ?_⟩
      rw [← List.length_eq_zero_iff, ← hcount, hnil, hleft]
      rfl

end FixResult

/-- Fixing a file reads it and fixes its text. -/
theorem fixFile_eq_ok_iff {registry : Registry} {validator : Validator} {disk : Disk}
    {path : Path} {fs : List Finding} {result : FixResult} :
    fixFile registry validator disk path fs = .ok (.ok result) ↔
      ∃ text, disk.readText path = .ok text ∧
        fixText registry validator path text fs = .ok result := by
  rw [fixFile]
  cases hread : disk.readText path with
  | error cause => simp
  | ok text =>
    simp only [map_eq_ok_iff, Except.ok.injEq, exists_eq_right]
    constructor
    · exact fun h => ⟨text, rfl, h⟩
    · rintro ⟨_, rfl, h⟩
      exact h

/-! ### Steps -/

namespace Batch

/-- **A file is settled** at its turn: it can be read, and a result settles its findings. -/
def Settles (b : Batch) (disk : Disk) (input : Path) (fs : List Finding) (result : FixResult) :
    Prop :=
  ∃ text, disk.readText input = .ok text ∧
    fixText b.registry b.validator input text fs = .ok result ∧ result.Settles b.validator fs

/-- **What is due to be written is written.** Nothing is due in a dry run, or if nothing is
to be fixed and the file is its own output. -/
inductive Delivers (b : Batch) (disk : Disk) (input : Path) (fs : List Finding)
    (result : FixResult) : (after : Disk) → Prop
  /-- A dry run writes nothing. -/
  | dry : b.dryRun = true → Delivers b disk input fs result disk
  /-- The file is already what it has to be. -/
  | idle : b.dryRun = false → fs = [] → (b.destination.pathFor disk input).same input = true →
    Delivers b disk input fs result disk
  /-- The text is written. -/
  | saved {after : Disk} : b.dryRun = false →
    (fs = [] → (b.destination.pathFor disk input).same input = false) →
    result.save disk (b.destination.pathFor disk input) = (after, .ok ()) →
    Delivers b disk input fs result after

/-- **A batch completes** some files with their findings: each file is settled and its text
delivered, and the batch completes the others on the disk that is left. -/
inductive Completes (b : Batch) : Disk → List (Path × List Finding) → Prop
  /-- Without files, there is nothing to do. -/
  | nil (disk : Disk) : Completes b disk []
  /-- The first file, and then the others. -/
  | cons {disk after : Disk} {input : Path} {fs : List Finding} {result : FixResult}
    {rest : List (Path × List Finding)} :
    b.Settles disk input fs result → b.Delivers disk input fs result after →
    Completes b after rest → Completes b disk ((input, fs) :: rest)

end Batch

/-- **A step is settled**: the file was read and, if need be, written, and no finding is
still there. -/
structure Step.IsSettled (s : Step) : Prop where
  /-- The file was read. -/
  read : s.isUnreadable = false
  /-- It was written, if it had to be. -/
  written : s.isUnwritten = false
  /-- No finding is left. -/
  unresolvedCount_eq : s.unresolvedCount = 0

namespace Batch

variable {b : Batch} {disk after after' : Disk} {input : Path} {fs : List Finding} {s : Step}
  {result : FixResult}

/-- A settled step settles its file and delivers its text. -/
theorem exists_settles_of_isSettled (h : b.step disk input fs = .ok (s, after))
    (hs : s.IsSettled) :
    ∃ result, b.Settles disk input fs result ∧ b.Delivers disk input fs result after := by
  have hsettles {result : FixResult}
      (hread : fixFile b.registry b.validator disk input fs = .ok (.ok result))
      (hzero : result.unresolvedCount = 0) :
      b.Settles disk input fs result ∧ result.rejection = none ∧
        (result.isModified = false ↔ fs = []) := by
    obtain ⟨text, htext, hfix⟩ := fixFile_eq_ok_iff.mp hread
    have hresult := (FixResult.settles_iff hfix).mpr hzero
    exact ⟨⟨text, htext, hfix, hresult⟩, hresult.rejection_eq_none hfix,
      hresult.isModified_eq_false_iff hfix⟩
  cases becomes_of_step h with
  | unreadable hread => cases hs.read
  | unwritten hread hnone hwet hwhy hsave => cases hs.written
  | rejected hread hrejection =>
    obtain ⟨-, hnone, -⟩ := hsettles hread hs.unresolvedCount_eq
    cases hnone.symm.trans hrejection
  | previewed hread hnone hdry =>
    obtain ⟨hfile, -, -⟩ := hsettles hread hs.unresolvedCount_eq
    exact ⟨_, hfile, .dry hdry⟩
  | unchanged hread hnone hwet hunmodified hsame =>
    obtain ⟨hfile, -, hmodified⟩ := hsettles hread hs.unresolvedCount_eq
    exact ⟨_, hfile, .idle hwet (hmodified.mp hunmodified) hsame⟩
  | written hread hnone hwet hwhy hsave =>
    obtain ⟨hfile, -, hmodified⟩ := hsettles hread hs.unresolvedCount_eq
    refine ⟨_, hfile, .saved hwet (fun hfs => hwhy.resolve_left ?_) hsave⟩
    rw [hmodified.mpr hfs]
    exact Bool.false_ne_true

/-- **If a file is settled and its text delivered, so is its step**, and the disk is the one
that the step leaves. -/
theorem isSettled_of_settles (h : b.step disk input fs = .ok (s, after))
    (hsettles : b.Settles disk input fs result)
    (hdelivers : b.Delivers disk input fs result after') : s.IsSettled ∧ after' = after := by
  obtain ⟨text, htext, hfix, hresult⟩ := hsettles
  have hread := fixFile_eq_ok_iff.mpr ⟨text, htext, hfix⟩
  have hzero := (FixResult.settles_iff hfix).mp hresult
  have hmodified := hresult.isModified_eq_false_iff hfix
  -- whatever the step is, it is about this result; a delivery of another kind contradicts it
  cases becomes_of_step h with
  | unreadable hread' => cases hread'.symm.trans hread
  | rejected hread' hrejection =>
    cases hread'.symm.trans hread
    cases (hresult.rejection_eq_none hfix).symm.trans hrejection
  | previewed hread' _ hdry =>
    cases hread'.symm.trans hread
    refine ⟨⟨rfl, rfl, hzero⟩, ?_⟩
    cases hdelivers with
    | dry => rfl
    | idle hwet => cases hdry.symm.trans hwet
    | saved hwet => cases hdry.symm.trans hwet
  | unchanged hread' _ hwet hunmodified hsame =>
    cases hread'.symm.trans hread
    refine ⟨⟨rfl, rfl, hzero⟩, ?_⟩
    cases hdelivers with
    | dry hdry => cases hdry.symm.trans hwet
    | idle => rfl
    | saved _ hdue => cases hsame.symm.trans (hdue (hmodified.mp hunmodified))
  | written hread' _ hwet hwhy hsave =>
    cases hread'.symm.trans hread
    refine ⟨⟨rfl, rfl, hzero⟩, ?_⟩
    cases hdelivers with
    | dry hdry => cases hdry.symm.trans hwet
    | idle _ hfs hsame =>
      rw [hmodified.mpr hfs, hsame] at hwhy
      simp at hwhy
    | saved _ _ hsaved => exact (Prod.mk.inj (hsaved.symm.trans hsave)).1
  | unwritten hread' _ hwet hwhy hsave =>
    cases hread'.symm.trans hread
    cases hdelivers with
    | dry hdry => cases hdry.symm.trans hwet
    | idle _ hfs hsame =>
      rw [hmodified.mpr hfs, hsame] at hwhy
      simp at hwhy
    | saved _ _ hsaved => cases hsaved.symm.trans hsave

/-! ### The whole batch -/

/-- **A batch has completed exactly if each of its steps is settled.** -/
theorem completes_iff_of_run {inputs : List (Path × List Finding)} {steps : List Step}
    (h : b.run disk inputs = .ok (steps, after)) :
    b.Completes disk inputs ↔ ∀ s ∈ steps, s.IsSettled := by
  induction inputs generalizing disk steps with
  | nil =>
    obtain rfl : [] = steps := congrArg Prod.fst (Except.ok.inj h)
    exact ⟨fun _ => List.forall_mem_nil _, fun _ => .nil disk⟩
  | cons entry rest ih =>
    obtain ⟨input, fs⟩ := entry
    obtain ⟨s, mid, hstep, hrest⟩ := run_cons_cases h
    constructor
    · intro hcompletes
      cases hcompletes with
      | cons hsettles hdelivers hmore =>
        obtain ⟨hs, rfl⟩ := isSettled_of_settles hstep hsettles hdelivers
        rcases hrest with ⟨hend, -, -⟩ | ⟨-, more, hrun, rfl⟩
        · cases hs.written.symm.trans hend
        · exact List.forall_mem_cons.mpr ⟨hs, (ih hrun).mp hmore⟩
    · intro hall
      rcases hrest with ⟨hend, rfl, -⟩ | ⟨-, more, hrun, rfl⟩
      -- a batch that ends early has a last step that is not settled
      · cases (hall s List.mem_cons_self).written.symm.trans hend
      · obtain ⟨hs, hmore⟩ := List.forall_mem_cons.mp hall
        obtain ⟨result, hsettles, hdelivers⟩ := exists_settles_of_isSettled hstep hs
        exact .cons hsettles hdelivers ((ih hrun).mpr hmore)

end Batch

end GnuLint
