import GnuLint.Proofs.Fix.DiskSafety
import GnuLint.Proofs.Fix.LineLocality

/-!
# Fixing several files into a directory

The fixed copy of a file goes into the directory under the last name of the file. Files
with the same last name therefore share an output, and the one that comes last keeps it
(`GnuLint.Batch.readText_outputs_sameName`). If the last names differ, then a batch that
writes all its outputs leaves each of them with the content that fixing its file gave,
whatever the batch wrote besides, and no output is another output or another input
(`GnuLint.Batch.readText_outputs`).

The argument is that a turn changes no file but those with the last name of its own
(`GnuLint.Batch.keptExcept_step`). What a later file reads is thus what was there at the
start, and what an earlier file wrote is still there at the end.
-/

namespace GnuLint

variable {disk after : Disk} {output : Path} {n : Text}

/-! ### One save -/

theorem FixResult.keptExcept_save (r : FixResult) (disk : Disk) (hn : output.fileName? = some n) :
    disk.KeptExcept [n] (r.save disk output).1 := by
  rw [save]
  split
  · exact Disk.KeptExcept.refl _ disk
  have hparent := (Disk.KeptExcept.createParent disk output).mono (List.nil_subset [n])
  split
  · rename_i hcreate
    rwa [hcreate] at hparent
  · rename_i mid hcreate
    rw [hcreate] at hparent
    split
    · exact hparent
    · rename_i after hwrite
      obtain ⟨l, hplace, hdir, rfl⟩ := Disk.put_of_write hwrite
      exact hparent.trans (Disk.KeptExcept.put_file hdir (Disk.head?_of_place hplace hn) _)

theorem FixResult.readText_of_save {r : FixResult} (h : r.save disk output = (after, .ok ())) :
    after.readText output = .ok r.content := by
  rw [save] at h
  split at h
  · cases h
  split at h
  · cases h
  split at h
  · cases h
  · rename_i d hwrite
    obtain rfl : d = after := congrArg Prod.fst h
    exact Disk.readText_of_write hwrite

namespace Batch

variable {b : Batch} {dir input : Path} {fs : List Finding} {s : Step}

/-! ### One turn -/

theorem pathFor_output (disk : Disk) (dir : Path) (hn : input.fileName? = some n) :
    (Destination.output dir false).pathFor disk input = dir.join ⟨n⟩ := by
  simp [Destination.pathFor, hn]

/-- **A turn changes no file but those with the last name of its own.** -/
theorem keptExcept_step (hdestination : b.destination = .output dir false)
    (hn : input.fileName? = some n) (h : b.step disk input fs = .ok (s, after)) :
    disk.KeptExcept [n] after := by
  rcases step_cases (t := ⟨disk, input, fs⟩) h with rfl | ⟨r, -, -, -, -, rfl⟩
  · exact Disk.KeptExcept.refl _ _
  · have hpath : b.destination.pathFor disk input = dir.join ⟨n⟩ := by
      rw [hdestination, pathFor_output disk dir hn]
    have hname : (b.destination.pathFor disk input).fileName? = some n := by
      rw [hpath, Path.fileName?_join dir hn]
    exact r.keptExcept_save disk hname

/-- A file in which nothing was fixed is read as it is. -/
theorem readText_of_not_isModified {registry : Registry} {validator : Validator} {r : FixResult}
    (h : fixFile registry validator disk input fs = .ok (.ok r)) (hnone : r.rejection = none)
    (hmodified : r.isModified = false) : disk.readText input = .ok r.content := by
  obtain ⟨text, fixed, htext, -, rfl⟩ := judge_of_fixFile h
  rcases FixResult.judge_cases validator input text fixed with
    ⟨-, hjudge⟩ | ⟨hnil, -, hjudge⟩ | ⟨rejection, -, -, hjudge⟩
  · rw [hjudge]
    exact htext
  · rw [hjudge] at hmodified
    simp [FixResult.isModified, FixResult.fixedCount, FixResult.isRejected, hnil] at hmodified
  · rw [hjudge] at hnone
    cases hnone

/-- **After the turn of a file, its output has the content that fixing it gave**, unless
the output cannot be written. -/
theorem readText_of_step {r : FixResult} (hdestination : b.destination = .output dir false)
    (hwet : b.dryRun = false) (hn : input.fileName? = some n)
    (hspelling : Disk.spellingError? (dir.join ⟨n⟩) = none)
    (hr : fixFile b.registry b.validator disk input fs = .ok (.ok r)) (hnone : r.rejection = none)
    (h : b.step disk input fs = .ok (s, after)) (hwritten : s.isUnwritten = false) :
    after.readText (dir.join ⟨n⟩) = .ok r.content := by
  have hpath : b.destination.pathFor disk input = dir.join ⟨n⟩ := by
    rw [hdestination, pathFor_output disk dir hn]
  rw [step, hr, hpath] at h
  simp only [bind, Except.bind, hnone, hwet, Bool.false_eq_true, if_false] at h
  split at h
  · rename_i hsame
    obtain ⟨hmodified, hsame⟩ : r.isModified = false ∧ (dir.join ⟨n⟩).same input = true := by
      simpa using hsame
    obtain rfl : disk = after := congrArg Prod.snd (Except.ok.inj h)
    have hread := readText_of_not_isModified hr hnone hmodified
    obtain ⟨l, hl, hfile⟩ := Disk.locate_of_find (Disk.file_of_readText hread)
    obtain ⟨hslash, hidle, -⟩ := Path.of_fileName? hn
    have hlast := Path.getLast?_split_join dir hslash hidle
    have hsame' : input.same (dir.join ⟨n⟩) = true :=
      Path.same_iff.mpr (Path.same_iff.mp hsame).symm
    refine Disk.readText_of_locate (Disk.locate_of_same hsame' hl hspelling ?_) hfile
    rw [hlast]
    rintro a ⟨⟩
    exact hidle
  · split at h
    · rename_i d hsave
      obtain rfl : d = after := congrArg Prod.snd (Except.ok.inj h)
      exact FixResult.readText_of_save hsave
    · obtain rfl := congrArg Prod.fst (Except.ok.inj h)
      cases hwritten

/-! ### The whole batch -/

variable {inputs : List (Path × List Finding)} {steps : List Step}

/-- **A batch that writes all its outputs goes on after its first turn.** -/
theorem run_cons {rest : List (Path × List Finding)}
    (h : b.run disk ((input, fs) :: rest) = .ok (steps, after))
    (hwritten : ∀ s ∈ steps, s.isUnwritten = false) :
    ∃ s mid more, b.step disk input fs = .ok (s, mid) ∧ b.run mid rest = .ok (more, after) ∧
      steps = s :: more := by
  obtain ⟨s, mid, hstep, hrest⟩ := run_cons_cases h
  rcases hrest with ⟨hend, rfl, -⟩ | ⟨-, more, hrun, rfl⟩
  · rw [hwritten s List.mem_cons_self] at hend
    cases hend
  · exact ⟨s, mid, more, hstep, hrun, rfl⟩

/-- **A batch changes no file but those with the last names of its inputs.** -/
theorem keptExcept_run (hdestination : b.destination = .output dir false)
    (hnamed : ∀ i ∈ inputs, ∃ n, i.1.fileName? = some n)
    (h : b.run disk inputs = .ok (steps, after)) (hwritten : ∀ s ∈ steps, s.isUnwritten = false) :
    disk.KeptExcept (inputs.filterMap (·.1.fileName?)) after := by
  induction inputs generalizing disk steps with
  | nil =>
    obtain rfl : disk = after := congrArg Prod.snd (Except.ok.inj h)
    exact Disk.KeptExcept.refl _ disk
  | cons entry rest ih =>
    obtain ⟨input, fs⟩ := entry
    obtain ⟨⟨n, hn⟩, hrest⟩ := List.forall_mem_cons.mp hnamed
    obtain ⟨s, mid, more, hstep, hrun, rfl⟩ := run_cons h hwritten
    have hfirst := keptExcept_step hdestination hn hstep
    have hmore := ih hrest hrun fun s hs => hwritten s (List.mem_cons_of_mem _ hs)
    have hnames : ((input, fs) :: rest).filterMap (·.1.fileName?) =
        n :: rest.filterMap (·.1.fileName?) := List.filterMap_cons_some hn
    rw [hnames]
    exact (hfirst.mono (by simp)).trans (hmore.mono (List.subset_cons_self _ _))

/-- What fixing a file gives does not depend on files with other names. -/
theorem fixFile_of_keptExcept {names : List Text} {r : FixResult} {registry : Registry}
    {validator : Validator} (hkept : disk.KeptExcept names after) (hn : input.fileName? = some n)
    (hnames : n ∉ names) (h : fixFile registry validator disk input fs = .ok (.ok r)) :
    fixFile registry validator after input fs = .ok (.ok r) := by
  obtain ⟨text, -, htext, -, -⟩ := judge_of_fixFile h
  rw [fixFile, htext] at h
  rw [fixFile, hkept.readText htext hn hnames]
  exact h

/-- At the end of a batch, the output of each file has the content that fixing it gives. -/
theorem readText_of_run (hdestination : b.destination = .output dir false)
    (hwet : b.dryRun = false) (hnamed : ∀ i ∈ inputs, ∃ n, i.1.fileName? = some n)
    (hdistinct : (inputs.map (·.1.fileName?)).Nodup)
    (hspelling : ∀ i ∈ inputs, Disk.spellingError? (b.destination.pathFor disk i.1) = none)
    (h : b.run disk inputs = .ok (steps, after)) (hwritten : ∀ s ∈ steps, s.isUnwritten = false) :
    ∀ i ∈ inputs, ∀ r, fixFile b.registry b.validator disk i.1 i.2 = .ok (.ok r) →
      r.rejection = none → after.readText (b.destination.pathFor disk i.1) = .ok r.content := by
  induction inputs generalizing disk steps with
  | nil => simp
  | cons entry rest ih =>
    obtain ⟨input, fs⟩ := entry
    obtain ⟨⟨n, hn⟩, hrest⟩ := List.forall_mem_cons.mp hnamed
    obtain ⟨hfirst, hothers⟩ := List.nodup_cons.mp hdistinct
    obtain ⟨hgood, hgoods⟩ := List.forall_mem_cons.mp hspelling
    obtain ⟨s, mid, more, hstep, hrun, rfl⟩ := run_cons h hwritten
    obtain ⟨hs, hmore⟩ := List.forall_mem_cons.mp hwritten
    have hpath {d : Disk} : b.destination.pathFor d input = dir.join ⟨n⟩ := by
      rw [hdestination, pathFor_output d dir hn]
    have hsame (p : Path) : b.destination.pathFor disk p = b.destination.pathFor mid p := by
      rw [hdestination]
      rfl
    refine List.forall_mem_cons.mpr ⟨fun r hr hnone => ?_, fun j hj r hr hnone => ?_⟩
    · -- what the first turn wrote is still there after the others
      have hread := readText_of_step hdestination hwet hn (hpath ▸ hgood) hr hnone hstep hs
      have hkept := keptExcept_run hdestination hrest hrun hmore
      rw [hpath]
      refine hkept.readText hread (Path.fileName?_join dir hn) fun hmem => hfirst ?_
      obtain ⟨j, hj, hname⟩ := List.mem_filterMap.mp hmem
      exact List.mem_map.mpr ⟨j, hj, hname.trans hn.symm⟩
    · -- what the others read is what was there before the first turn
      obtain ⟨m, hm⟩ := hrest j hj
      have hne : m ∉ [n] := fun hmem => hfirst <| by
        obtain rfl : m = n := List.mem_singleton.mp hmem
        exact List.mem_map.mpr ⟨j, hj, hm.trans hn.symm⟩
      have hkept := keptExcept_step hdestination hn hstep
      have hr' := fixFile_of_keptExcept hkept hm hne hr
      rw [hsame]
      refine ih hrest hothers (fun i hi => ?_) hrun hmore j hj r hr' hnone
      rw [← hsame]
      exact hgoods i hi

/-- Paths with different last names are different. -/
theorem same_eq_false {p q : Path} (h : p.fileName? ≠ q.fileName?) : p.same q = false := by
  rw [Bool.eq_false_iff]
  intro hsame
  exact h (by rw [Path.fileName?, Path.fileName?, Path.same_iff.mp hsame])

/-- **A batch that fixes files with different last names into a directory loses no
result**: if it writes all its outputs, then at its end each output has the content that
fixing its file as it was at the start gives, unless the validator rejects it. No output is
another output or another input. -/
theorem readText_outputs (hdestination : b.destination = .output dir false)
    (hwet : b.dryRun = false) (hnamed : ∀ i ∈ inputs, ∃ n, i.1.fileName? = some n)
    (hdistinct : (inputs.map (·.1.fileName?)).Nodup)
    (hspelling : ∀ i ∈ inputs, Disk.spellingError? (b.destination.pathFor disk i.1) = none)
    (h : b.run disk inputs = .ok (steps, after)) (hwritten : ∀ s ∈ steps, s.isUnwritten = false) :
    (∀ i ∈ inputs, ∀ r, fixFile b.registry b.validator disk i.1 i.2 = .ok (.ok r) →
        r.rejection = none →
          after.readText (b.destination.pathFor disk i.1) = .ok r.content) ∧
      inputs.Pairwise fun i j =>
        (b.destination.pathFor disk i.1).same (b.destination.pathFor disk j.1) = false ∧
          (b.destination.pathFor disk i.1).same j.1 = false ∧
          (b.destination.pathFor disk j.1).same i.1 = false := by
  refine ⟨readText_of_run hdestination hwet hnamed hdistinct hspelling h hwritten, ?_⟩
  have hname : ∀ i ∈ inputs, (b.destination.pathFor disk i.1).fileName? = i.1.fileName? := by
    intro i hi
    obtain ⟨n, hn⟩ := hnamed i hi
    rw [hdestination, pathFor_output disk dir hn, hn, Path.fileName?_join dir hn]
  refine (List.pairwise_map.mp hdistinct).imp_of_mem fun {i j} hi hj hne => ⟨?_, ?_, ?_⟩
  · exact same_eq_false (by rwa [hname i hi, hname j hj])
  · exact same_eq_false (by rwa [hname i hi])
  · exact same_eq_false (by rw [hname j hj]; exact hne.symm)

end Batch

/-! ### Examples -/

/-- Three scripts, two of which have the same last name. -/
def Disk.scripts : Disk where
  entries := [
    (["src".toList], .directory),
    (["a.sh".toList, "src".toList], .file (Bytes.ofText "x ab\r\nab".toList)),
    (["a.sh".toList], .file (Bytes.ofText "id\n".toList)),
    (["b.sh".toList], .file (Bytes.ofText "ls\n".toList))]
  workingDirectory := []

/-- A batch that fixes files into a directory. -/
def Batch.intoDirectory : Batch where
  registry := ∅
  validator := fun _ => .ok ()
  destination := .output (.ofString "out/fixed") false
  dryRun := false

/-- A script that is fixed and one that is copied. -/
theorem Batch.readText_outputs_copied :
    ∃ steps after, intoDirectory.run .scripts
        [(.ofString "src/a.sh", [.shortening]), (.ofString "./b.sh", [])] = .ok (steps, after) ∧
      (∀ s ∈ steps, s.isUnwritten = false) ∧
      after.readText (.ofString "out/fixed/a.sh") = .ok "x c\r\nab".toList ∧
      after.readText (.ofString "out/fixed/b.sh") = .ok "ls\n".toList := by
  have hrun : ((intoDirectory.run .scripts
      [(.ofString "src/a.sh", [.shortening]), (.ofString "./b.sh", [])]).map fun r =>
        r.1.all (!·.isUnwritten)) = .ok true := by decide +kernel
  obtain ⟨⟨steps, after⟩, h, hall⟩ := map_eq_ok_iff.mp hrun
  have hwritten : ∀ s ∈ steps, s.isUnwritten = false := by simpa using hall
  obtain ⟨hread, -⟩ := readText_outputs rfl rfl
    (by simp [show Path.fileName? (.ofString "src/a.sh") = some "a.sh".toList by decide +kernel,
      show Path.fileName? (.ofString "./b.sh") = some "b.sh".toList by decide +kernel])
    (by decide +kernel) (by decide +kernel) h hwritten
  refine ⟨steps, after, h, hwritten, ?_, ?_⟩
  · exact hread (.ofString "src/a.sh", [.shortening]) (by simp)
      ⟨.ofString "src/a.sh", "x c\r\nab".toList,
        [⟨1, 3, "shortening", "x ab".toList, "x c".toList⟩], [], some "x c\r\nab".toList, none⟩
      (by decide +kernel) rfl
  · exact hread (.ofString "./b.sh", []) (by simp)
      ⟨.ofString "./b.sh", "ls\n".toList, [], [], none, none⟩ (by decide +kernel) rfl

/-- **Two scripts with the same last name**: both are fixed and written to the same output,
where only the second one is in the end. -/
theorem Batch.readText_outputs_sameName :
    ∃ steps after, intoDirectory.run .scripts
        [(.ofString "src/a.sh", []), (.ofString "a.sh", [])] = .ok (steps, after) ∧
      (∀ s ∈ steps, s.isUnwritten = false) ∧
      fixFile intoDirectory.registry intoDirectory.validator .scripts (.ofString "src/a.sh") [] =
        .ok (.ok ⟨.ofString "src/a.sh", "x ab\r\nab".toList, [], [], none, none⟩) ∧
      intoDirectory.destination.pathFor .scripts (.ofString "src/a.sh") =
        .ofString "out/fixed/a.sh" ∧
      after.readText (.ofString "out/fixed/a.sh") = .ok "id\n".toList := by
  have hrun : ((intoDirectory.run .scripts
      [(.ofString "src/a.sh", []), (.ofString "a.sh", [])]).map fun r =>
        (r.1.all (!·.isUnwritten), r.2.readText (.ofString "out/fixed/a.sh"))) =
      .ok (true, .ok "id\n".toList) := by decide +kernel
  obtain ⟨⟨steps, after⟩, h, hend⟩ := map_eq_ok_iff.mp hrun
  obtain ⟨hall, hread⟩ := Prod.mk.inj hend
  exact ⟨steps, after, h, by simpa using hall, by decide +kernel, by decide +kernel, hread⟩

end GnuLint
