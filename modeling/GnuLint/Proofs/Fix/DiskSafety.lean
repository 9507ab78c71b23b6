import GnuLint.CommandLine.Check
import GnuLint.Proofs.Files.Persistence
import GnuLint.Proofs.Fix.Judgement

/-!
# What a fix run does to the disk

A fix run may end early: a file that cannot be written ends it, and so does a fault. What
is on the disk then is what the files before have left there
(`GnuLint.Batch.leaves`). Whenever and however the run ends, a file holds what it held at
the start, or a candidate that the validator accepted, or – if the fixed files go
somewhere else – the very bytes of a file in which nothing was fixed
(`GnuLint.CommandLine.fix_keepsFiles`).

The argument follows the run. A file has its **turn** with the disk that the files before
it left (`GnuLint.Batch.Turn`); a turn either leaves the disk alone or saves one result
(`GnuLint.Batch.step_cases`), a save changes one file apart from creating directories
(`GnuLint.FixResult.save_cases`), and the run puts the turns together. When files are
overwritten in place, not even directories are created, and paths keep leading to the
same locations throughout the run.
-/

namespace GnuLint

/-! ### One save -/

/-- **What a save does**: it makes the disk grow, and it may put the content of the result
at the place of the output. -/
theorem FixResult.save_cases (r : FixResult) (disk : Disk) (output : Path) :
    disk.Grows (r.save disk output).1 ∨
      ∃ mid l, disk.Grows mid ∧ mid.at? l ≠ some .directory ∧
        (r.save disk output).1 = mid.put l (.file (Bytes.ofText r.content)) := by
  rw [save]
  split
  · exact Or.inl (Disk.Grows.refl disk)
  have hgrows := disk.grows_createParent output
  split
  · rename_i mid cause hparent
    rw [hparent] at hgrows
    exact Or.inl hgrows
  · rename_i mid hparent
    rw [hparent] at hgrows
    split
    · exact Or.inl hgrows
    · rename_i after hwrite
      obtain ⟨l, -, hdir, hput⟩ := Disk.put_of_write hwrite
      exact Or.inr ⟨mid, l, hgrows, hdir, hput⟩

/-- **What saving over the file that was read does**: nothing, or it puts the content of
the result where the file is. -/
theorem FixResult.save_over {r : FixResult} {disk : Disk} {input : Path} {old : Bytes}
    (h : disk.find input = .ok (.file old)) :
    (r.save disk input).1 = disk ∨
      ∃ l, disk.locate input = .ok l ∧
        (r.save disk input).1 = disk.put l (.file (Bytes.ofText r.content)) := by
  rw [save, Disk.createParent_of_find h]
  split
  · exact Or.inl rfl
  simp only
  split
  · exact Or.inl rfl
  · rename_i after hwrite
    obtain ⟨l, hl, hput⟩ := Disk.put_of_write_of_find h hwrite
    exact Or.inr ⟨l, hl, hput⟩

/-! ### The turns of a batch -/

namespace Batch

/-- **The turn of a file**: the disk when it comes, the file and its findings. -/
structure Turn where
  /-- The disk as the files before left it. -/
  disk : Disk
  /-- The file. -/
  input : Path
  /-- The findings. -/
  findings : List Finding

/-- **The turns of a batch**, as far as it gets. -/
def turns (b : Batch) : Disk → List (Path × List Finding) → List Turn
  | _, [] => []
  | disk, (input, fs) :: rest =>
    ⟨disk, input, fs⟩ ::
      match b.step disk input fs with
      | .error _ => []
      | .ok (s, after) => if s.isUnwritten then [] else b.turns after rest

/-- **The disk that a batch leaves**, whether it goes through or ends early. -/
def leaves (b : Batch) : Disk → List (Path × List Finding) → Disk
  | disk, [] => disk
  | disk, (input, fs) :: rest =>
    match b.step disk input fs with
    | .error _ => disk
    | .ok (s, after) => if s.isUnwritten then after else b.leaves after rest

/-- A text is the candidate of a file at its turn: it is handed to the validator. -/
def Turn.IsCandidate (b : Batch) (t : Turn) (candidate : Text) : Prop :=
  ∃ result, fixFile b.registry b.validator t.disk t.input t.findings = .ok (.ok result) ∧
    result.candidate = some candidate

/-- Some bytes are those of a file at its turn, and nothing was fixed in it. -/
def Turn.IsUntouched (b : Batch) (t : Turn) (contents : Bytes) : Prop :=
  ∃ result, fixFile b.registry b.validator t.disk t.input t.findings = .ok (.ok result) ∧
    result.applied = [] ∧ t.disk.find t.input = .ok (.file contents)

/-- **What a turn may put into a file**: a candidate that the validator accepts, or the
bytes of a file in which nothing was fixed, unless files are overwritten in place. -/
inductive Turn.Yields (b : Batch) (t : Turn) : Bytes → Prop
  /-- An accepted candidate. -/
  | accepted {candidate : Text} : t.IsCandidate b candidate → b.validator candidate = .ok () →
      Yields b t (Bytes.ofText candidate)
  /-- A copy. -/
  | copied {contents : Bytes} : b.destination ≠ .inPlace → t.IsUntouched b contents →
      Yields b t contents

variable {b : Batch} {disk after : Disk} {t : Turn} {s : Step}

/-- **What fixing a file gives**: a result that is not rejected has the text of the file,
if nothing was fixed, or else an accepted candidate. -/
theorem content_of_fixFile {registry : Registry} {validator : Validator} {path : Path}
    {fs : List Finding} {result : FixResult}
    (h : fixFile registry validator disk path fs = .ok (.ok result))
    (hnone : result.rejection = none) :
    (result.applied = [] ∧ result.isModified = false ∧
        disk.find path = .ok (.file (Bytes.ofText result.content))) ∨
      (result.candidate = some result.content ∧ validator result.content = .ok ()) := by
  obtain ⟨text, fixed, htext, -, rfl⟩ := judge_of_fixFile h
  rcases FixResult.judge_cases validator path text fixed with
    ⟨hnil, hjudge⟩ | ⟨-, hok, hjudge⟩ | ⟨rejection, -, -, hjudge⟩
  · rw [hjudge]
    refine Or.inl ⟨hnil, ?_, Disk.file_of_readText htext⟩
    simp [FixResult.isModified, FixResult.fixedCount, FixResult.isRejected, hnil]
  · rw [hjudge]
    exact Or.inr ⟨rfl, hok⟩
  · rw [hjudge] at hnone
    cases hnone

/-- **What may become of a file** at its turn, and the disk after it. -/
inductive Becomes (b : Batch) (disk : Disk) (input : Path) (fs : List Finding) :
    Step → Disk → Prop
  /-- The file cannot be read. -/
  | unreadable {cause : ScanError FileError} :
    fixFile b.registry b.validator disk input fs = .ok (.error cause) →
    Becomes b disk input fs (.unreadable cause) disk
  /-- The validator rejects the fixed file. -/
  | rejected {result : FixResult} {rejection : Rejection} :
    fixFile b.registry b.validator disk input fs = .ok (.ok result) →
    result.rejection = some rejection →
    Becomes b disk input fs (.rejected result rejection) disk
  /-- Nothing is written in a dry run. -/
  | previewed {result : FixResult} :
    fixFile b.registry b.validator disk input fs = .ok (.ok result) →
    result.rejection = none → b.dryRun = true →
    Becomes b disk input fs (.previewed (b.destination.pathFor disk input) result) disk
  /-- No write is due. -/
  | unchanged {result : FixResult} :
    fixFile b.registry b.validator disk input fs = .ok (.ok result) →
    result.rejection = none → b.dryRun = false → result.isModified = false →
    (b.destination.pathFor disk input).same input = true →
    Becomes b disk input fs (.unchanged (b.destination.pathFor disk input) result) disk
  /-- The fixed file is written. -/
  | written {result : FixResult} {after : Disk} :
    fixFile b.registry b.validator disk input fs = .ok (.ok result) →
    result.rejection = none → b.dryRun = false →
    (result.isModified = true ∨ (b.destination.pathFor disk input).same input = false) →
    result.save disk (b.destination.pathFor disk input) = (after, .ok ()) →
    Becomes b disk input fs (.written (b.destination.pathFor disk input) result) after
  /-- The fixed file cannot be written. -/
  | unwritten {result : FixResult} {after : Disk} {cause : SaveError} :
    fixFile b.registry b.validator disk input fs = .ok (.ok result) →
    result.rejection = none → b.dryRun = false →
    (result.isModified = true ∨ (b.destination.pathFor disk input).same input = false) →
    result.save disk (b.destination.pathFor disk input) = (after, .error cause) →
    Becomes b disk input fs (.unwritten (b.destination.pathFor disk input) result cause) after

/-- **A turn is one of those that there may be.** -/
theorem becomes_of_step {input : Path} {fs : List Finding}
    (h : b.step disk input fs = .ok (s, after)) : b.Becomes disk input fs s after := by
  obtain ⟨read, hread, hrest⟩ := bind_eq_ok_iff.mp h
  cases read with
  | error cause =>
    obtain ⟨rfl, rfl⟩ := Prod.mk.inj (Except.ok.inj hrest)
    exact .unreadable hread
  | ok result =>
    simp only at hrest
    split at hrest
    · rename_i rejection hrejection
      obtain ⟨rfl, rfl⟩ := Prod.mk.inj (Except.ok.inj hrest)
      exact .rejected hread hrejection
    rename_i hnone
    split at hrest
    · rename_i hdry
      obtain ⟨rfl, rfl⟩ := Prod.mk.inj (Except.ok.inj hrest)
      exact .previewed hread hnone hdry
    rename_i hwet
    rw [Bool.not_eq_true] at hwet
    split at hrest
    · rename_i hidle
      obtain ⟨rfl, rfl⟩ := Prod.mk.inj (Except.ok.inj hrest)
      obtain ⟨hunmodified, hsame⟩ := Bool.and_eq_true_iff.mp hidle
      exact .unchanged hread hnone hwet (by simpa using hunmodified) hsame
    rename_i hdue
    have hwhy : result.isModified = true ∨
        (b.destination.pathFor disk input).same input = false := by
      simpa [or_iff_not_imp_left] using hdue
    split at hrest
    · rename_i hsave
      obtain ⟨rfl, rfl⟩ := Prod.mk.inj (Except.ok.inj hrest)
      exact .written hread hnone hwet hwhy hsave
    · rename_i hsave
      obtain ⟨rfl, rfl⟩ := Prod.mk.inj (Except.ok.inj hrest)
      exact .unwritten hread hnone hwet hwhy hsave

/-- **What a turn does to the disk**: nothing, or it saves a result that the validator did
not reject, and then files are written, and something was fixed or goes elsewhere. -/
theorem step_cases (h : b.step t.disk t.input t.findings = .ok (s, after)) :
    after = t.disk ∨
      ∃ result, fixFile b.registry b.validator t.disk t.input t.findings = .ok (.ok result) ∧
        b.dryRun = false ∧ result.rejection = none ∧
        (result.isModified = true ∨
          (b.destination.pathFor t.disk t.input).same t.input = false) ∧
        after = (result.save t.disk (b.destination.pathFor t.disk t.input)).1 := by
  cases becomes_of_step h with
  | unreadable | rejected | previewed | unchanged => exact Or.inl rfl
  | written hread hnone hwet hwhy hsave =>
    exact Or.inr ⟨_, hread, hwet, hnone, hwhy, by rw [hsave]⟩
  | unwritten hread hnone hwet hwhy hsave =>
    exact Or.inr ⟨_, hread, hwet, hnone, hwhy, by rw [hsave]⟩

/-- A dry turn leaves the disk alone. -/
theorem step_of_dryRun (hdry : b.dryRun = true)
    (h : b.step t.disk t.input t.findings = .ok (s, after)) : after = t.disk := by
  rcases step_cases h with hsame | ⟨_, _, hwet, _⟩
  · exact hsame
  · rw [hdry] at hwet
    cases hwet

/-- **What a turn changes**: besides new directories where nothing was, at most one
location, where there is a file then that holds what the turn yields. -/
theorem at?_step (h : b.step t.disk t.input t.findings = .ok (s, after)) (l : Location) :
    after.at? l = t.disk.at? l ∨
      (t.disk.at? l = none ∧ after.at? l = some .directory) ∨
      (t.disk.at? l ≠ some .directory ∧
        ∃ contents, after.at? l = some (.file contents) ∧ t.Yields b contents) := by
  rcases step_cases h with rfl | ⟨result, hresult, -, hnone, hwhy, rfl⟩
  · exact Or.inl rfl
  rcases result.save_cases t.disk (b.destination.pathFor t.disk t.input) with
    hgrows | ⟨mid, k, hgrows, hdir, hput⟩
  · exact (hgrows l).imp_right Or.inl
  have hroot : k ≠ [] := by
    rintro rfl
    exact hdir (Disk.at?_root mid)
  rw [hput, Disk.at?_put mid hroot]
  by_cases hl : l = k
  · subst hl
    rw [if_pos rfl]
    refine Or.inr (Or.inr ⟨fun hc => hdir ?_, _, rfl, ?_⟩)
    · rw [hgrows.at?_of_ne_none (by simp [hc]), hc]
    rcases content_of_fixFile hresult hnone with ⟨hnil, hsame, hfile⟩ | ⟨hcandidate, hok⟩
    · refine .copied (fun hplace => ?_) ⟨result, hresult, hnil, hfile⟩
      -- in place, a file in which nothing was fixed is not written
      rw [hsame, hplace] at hwhy
      simp [Destination.pathFor, Path.same] at hwhy
    · exact .accepted ⟨result, hresult, hcandidate⟩ hok
  · rw [if_neg hl]
    exact (hgrows l).imp_right Or.inl

/-- **A turn in place** leaves the disk alone, or puts an accepted candidate where the file
is. -/
theorem step_inPlace (hplace : b.destination = .inPlace)
    (h : b.step t.disk t.input t.findings = .ok (s, after)) :
    after = t.disk ∨
      ∃ l old candidate, t.disk.locate t.input = .ok l ∧ t.disk.at? l = some (.file old) ∧
        t.IsCandidate b candidate ∧ b.validator candidate = .ok () ∧
        after = t.disk.put l (.file (Bytes.ofText candidate)) := by
  rcases step_cases h with rfl | ⟨result, hresult, -, hnone, hwhy, rfl⟩
  · exact Or.inl rfl
  obtain ⟨text, fixed, htext, -, -⟩ := judge_of_fixFile hresult
  have hfile := Disk.file_of_readText htext
  have houtput : b.destination.pathFor t.disk t.input = t.input := by
    rw [hplace]
    rfl
  rw [houtput] at hwhy ⊢
  rcases FixResult.save_over hfile with hsame | ⟨l, hl, hput⟩
  · exact Or.inl hsame
  obtain ⟨k, hk, hold⟩ := Disk.locate_of_find hfile
  obtain rfl : l = k := Except.ok.inj (hl.symm.trans hk)
  rcases content_of_fixFile hresult hnone with ⟨-, hsame, -⟩ | ⟨hcandidate, hok⟩
  · rw [hsame] at hwhy
    simp [Path.same] at hwhy
  · exact Or.inr ⟨l, _, result.content, hl, hold, ⟨result, hresult, hcandidate⟩, hok, hput⟩

/-- **A rejected candidate is not written**, and neither is anything else in its turn. -/
theorem step_of_rejects {candidate : Text} {rejection : Rejection}
    (hcandidate : t.IsCandidate b candidate) (hreject : b.validator candidate = .error rejection) :
    ∃ result, b.step t.disk t.input t.findings = .ok (.rejected result rejection, t.disk) := by
  obtain ⟨result, hresult, hsome⟩ := hcandidate
  have hrejection : result.rejection = some rejection := by
    obtain ⟨text, fixed, -, -, rfl⟩ := judge_of_fixFile hresult
    rcases FixResult.judge_cases b.validator t.input text fixed with
      ⟨-, hjudge⟩ | ⟨-, hok, hjudge⟩ | ⟨judged, -, hbad, hjudge⟩
    · rw [hjudge] at hsome
      cases hsome
    · rw [hjudge] at hsome
      obtain rfl : fixed.text = candidate := Option.some.inj hsome
      rw [hreject] at hok
      cases hok
    · rw [hjudge] at hsome ⊢
      obtain rfl : fixed.text = candidate := Option.some.inj hsome
      rw [hreject] at hbad
      rw [Except.error.inj hbad]
  refine ⟨result, ?_⟩
  rw [step, hresult]
  simp only [bind, Except.bind, hrejection]
  rfl

/-! ### The whole batch -/

theorem mem_of_mem_turns {inputs : List (Path × List Finding)} (h : t ∈ b.turns disk inputs) :
    (t.input, t.findings) ∈ inputs := by
  induction inputs generalizing disk with
  | nil => simp [turns] at h
  | cons entry rest ih =>
    obtain ⟨input, fs⟩ := entry
    rcases List.mem_cons.mp h with rfl | h
    · exact List.mem_cons_self
    · refine List.mem_cons_of_mem _ ?_
      split at h
      · simp at h
      · split at h
        · simp at h
        · exact ih h

/-- **The first turn of a batch ends it or is followed by the others**: it ends it if the
fixed file cannot be written. -/
theorem run_cons_cases {input : Path} {fs : List Finding} {rest : List (Path × List Finding)}
    {steps : List Step} (h : b.run disk ((input, fs) :: rest) = .ok (steps, after)) :
    ∃ s mid, b.step disk input fs = .ok (s, mid) ∧
      ((s.isUnwritten = true ∧ steps = [s] ∧ after = mid) ∨
        (s.isUnwritten = false ∧ ∃ more, b.run mid rest = .ok (more, after) ∧
          steps = s :: more)) := by
  obtain ⟨⟨s, mid⟩, hstep, hrest⟩ := bind_eq_ok_iff.mp h
  refine ⟨s, mid, hstep, ?_⟩
  cases s with
  | unwritten output result cause =>
    obtain ⟨rfl, rfl⟩ := Prod.mk.inj (Except.ok.inj hrest)
    exact Or.inl ⟨rfl, rfl, rfl⟩
  | unreadable | rejected | previewed | unchanged | written =>
    obtain ⟨⟨more, last⟩, hrun, hlast⟩ := bind_eq_ok_iff.mp hrest
    obtain ⟨rfl, rfl⟩ := Prod.mk.inj (Except.ok.inj hlast)
    exact Or.inr ⟨rfl, more, hrun, rfl⟩

/-- The run of a batch, where it gets to its end, ends with the disk that the batch
leaves. -/
theorem leaves_of_run {inputs : List (Path × List Finding)} {steps : List Step}
    (h : b.run disk inputs = .ok (steps, after)) : after = b.leaves disk inputs := by
  induction inputs generalizing disk steps with
  | nil => exact (congrArg Prod.snd (Except.ok.inj h)).symm
  | cons entry rest ih =>
    obtain ⟨input, fs⟩ := entry
    obtain ⟨s, mid, hstep, hrest⟩ := run_cons_cases h
    rw [leaves, hstep]
    rcases hrest with ⟨hend, -, rfl⟩ | ⟨hmore, more, hrun, -⟩
    · exact (if_pos hend).symm
    · rw [ih hrun]
      exact (if_neg (by simp [hmore])).symm

/-- What a property of disks needs to hold at the end of a batch: it holds at the start,
and every turn keeps it. -/
theorem leaves_induction {inputs : List (Path × List Finding)} (P : Disk → Prop)
    (hstart : P disk)
    (hstep : ∀ t ∈ b.turns disk inputs, P t.disk → ∀ s after,
      b.step t.disk t.input t.findings = .ok (s, after) → P after) :
    P (b.leaves disk inputs) := by
  induction inputs generalizing disk with
  | nil => exact hstart
  | cons entry rest ih =>
    obtain ⟨input, fs⟩ := entry
    -- the turns of the rest are turns of the whole, with the disk that the first one leaves
    have hfirst := hstep ⟨disk, input, fs⟩ List.mem_cons_self hstart
    rw [leaves]
    rw [turns] at hstep
    cases hs : b.step disk input fs with
    | error fault => exact hstart
    | ok r =>
      obtain ⟨s, mid⟩ := r
      have hmid := hfirst s mid hs
      simp only [hs] at hstep ⊢
      split
      · exact hmid
      · rename_i hwritten
        rw [if_neg hwritten] at hstep
        exact ih hmid fun t ht => hstep t (List.mem_cons_of_mem _ ht)

/-! ### What a batch may do -/

/-- **Only inputs have changed**, and only to accepted candidates. -/
def ChangesInputs (b : Batch) (turns : List Turn) (before after : Disk) : Prop :=
  ∀ l, after.at? l = before.at? l ∨
    ∃ t ∈ turns, ∃ candidate, before.locate t.input = .ok l ∧ t.IsCandidate b candidate ∧
      b.validator candidate = .ok () ∧ after.at? l = some (.file (Bytes.ofText candidate))

/-- **A batch keeps files** through some turns: whatever they do, a file is what it was or
what some turn may put into it. -/
structure KeepsFiles (b : Batch) (turns : List Turn) (before after : Disk) : Prop where
  /-- A file holds what it held, or what some turn yields. -/
  contents {l : Location} {contents : Bytes} : after.at? l = some (.file contents) →
    before.at? l = some (.file contents) ∨ ∃ t ∈ turns, t.Yields b contents
  /-- No file is lost. -/
  stays {l : Location} {old : Bytes} : before.at? l = some (.file old) →
    ∃ new, after.at? l = some (.file new)
  /-- In place, only inputs change, and only to accepted candidates. -/
  inPlace : b.destination = .inPlace → b.ChangesInputs turns before after
  /-- A dry run changes nothing. -/
  dry : b.dryRun = true → after = before

variable {inputs : List (Path × List Finding)}

/-- In place, the shape of the disk stays as it is throughout. -/
theorem sameShape_step (hplace : b.destination = .inPlace) (hshape : disk.SameShape t.disk)
    (h : b.step t.disk t.input t.findings = .ok (s, after)) : disk.SameShape after := by
  rcases step_inPlace hplace h with rfl | ⟨l, old, candidate, -, hold, -, -, rfl⟩
  · exact hshape
  · exact hshape.trans (Disk.SameShape.put hold _)

theorem changesInputs_leaves (hplace : b.destination = .inPlace) :
    disk.SameShape (b.leaves disk inputs) ∧
      b.ChangesInputs (b.turns disk inputs) disk (b.leaves disk inputs) := by
  -- a path has to lead to the same location throughout, so the shape is part of it
  refine leaves_induction
    (fun d => disk.SameShape d ∧ b.ChangesInputs (b.turns disk inputs) disk d)
    ⟨Disk.SameShape.refl disk, fun _ => Or.inl rfl⟩ ?_
  intro t ht ⟨hshape, hkeep⟩ s after hstep
  refine ⟨sameShape_step hplace hshape hstep, fun l => ?_⟩
  rcases step_inPlace hplace hstep with rfl | ⟨k, old, candidate, hk, hold, hcand, hok, rfl⟩
  · exact hkeep l
  have hroot : k ≠ [] := by
    rintro rfl
    simp at hold
  rw [Disk.at?_put t.disk hroot]
  by_cases hl : l = k
  · subst hl
    exact Or.inr ⟨t, ht, candidate, (hshape.locate t.input).trans hk, hcand, hok, if_pos rfl⟩
  · rw [if_neg hl]
    exact hkeep l

/-- **A batch keeps files.** -/
theorem keepsFiles_leaves (b : Batch) (disk : Disk) (inputs : List (Path × List Finding)) :
    b.KeepsFiles (b.turns disk inputs) disk (b.leaves disk inputs) where
  contents {l} {contents} := by
    refine leaves_induction (fun d => d.at? l = some (.file contents) →
      disk.at? l = some (.file contents) ∨ ∃ t ∈ b.turns disk inputs, t.Yields b contents)
      Or.inl ?_
    intro t ht hbefore s after hstep hfile
    rcases at?_step hstep l with he | ⟨-, hd⟩ | ⟨-, new, hnew, hyields⟩
    · exact hbefore (he ▸ hfile)
    · rw [hd] at hfile
      cases hfile
    · obtain rfl : new = contents := by simpa using hnew.symm.trans hfile
      exact Or.inr ⟨t, ht, hyields⟩
  stays {l} {old} hold := by
    refine leaves_induction (fun d => ∃ new, d.at? l = some (.file new)) ⟨old, hold⟩ ?_
    intro t ht ⟨new, hnew⟩ s after hstep
    rcases at?_step hstep l with he | ⟨hn, -⟩ | ⟨-, newer, hnewer, -⟩
    · exact ⟨new, he.trans hnew⟩
    · rw [hn] at hnew
      cases hnew
    · exact ⟨newer, hnewer⟩
  inPlace hplace := (changesInputs_leaves hplace).2
  dry hdry := by
    refine leaves_induction (fun d => d = disk) rfl ?_
    intro t ht hd s after hstep
    exact (step_of_dryRun hdry hstep).trans hd

end Batch

/-! ### Fix runs -/

namespace CommandLine

/-- **Fix runs are safe for the disk**, whatever the rewrites, the validator, the
destination, the scripts and the disk are. A run ends with the disk that its batch leaves,
or it ends early in a fault and has left just that; the batch keeps files; and a turn
whose candidate the validator rejects changes nothing. -/
theorem fix_keepsFiles (b : Batch) (scans : Scans) (disk : Disk) :
    (∀ e, fix b scans disk = .ok e → e.disk = b.leaves disk scans.findings) ∧
      b.KeepsFiles (b.turns disk scans.findings) disk (b.leaves disk scans.findings) ∧
      ∀ t ∈ b.turns disk scans.findings, (t.input, t.findings) ∈ scans.findings ∧
        ∀ candidate rejection, t.IsCandidate b candidate →
          b.validator candidate = .error rejection →
          ∃ result, b.step t.disk t.input t.findings =
            .ok (.rejected result rejection, t.disk) := by
  refine ⟨fun e he => ?_, b.keepsFiles_leaves disk scans.findings, fun t ht => ⟨?_, ?_⟩⟩
  · obtain ⟨⟨steps, after⟩, hrun, hrest⟩ := bind_eq_ok_iff.mp he
    rw [← Except.ok.inj hrest]
    exact Batch.leaves_of_run hrun
  · exact Batch.mem_of_mem_turns ht
  · exact fun candidate rejection => Batch.step_of_rejects

end CommandLine

end GnuLint
