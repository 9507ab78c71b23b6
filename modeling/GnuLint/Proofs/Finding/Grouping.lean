import GnuLint.Finding.Basic
import GnuLint.Proofs.Files.Spelling
import Mathlib.Algebra.Order.Ring.Nat
import Mathlib.Data.Finset.Card
import Mathlib.Data.List.Induction

/-!
# Findings grouped by file

Grouping goes through the findings once and changes a list of groups as it goes. What the list
holds in the end can be told without that: the files of the findings, each once, and with each
file the findings in it (`GnuLint.Findings.byFile_eq`). Everything else about groups follows,
since a path is the same as exactly one of the files that are kept
(`GnuLint.Findings.existsUnique_files`).
-/

namespace GnuLint.Findings

variable {fs : List Finding} {f : Finding} {p q : Path}

/-! ### The files of some findings -/

/-- **The files of some findings**, each once: in the place and in the spelling in which it first
comes up. -/
def files (fs : List Finding) : List Path := (fs.map Finding.file).eraseDupsBy Path.same

/-- **The findings in a file**, in order. -/
def inFile (p : Path) (fs : List Finding) : List Finding := fs.filter fun f => p.same f.file

theorem eraseDupsBy_loop_concat {α : Type} (r : α → α → Bool) (as kept : List α) (a : α) :
    List.eraseDupsBy.loop r (as ++ [a]) kept =
      if (List.eraseDupsBy.loop r as kept).any (r a) then List.eraseDupsBy.loop r as kept
      else List.eraseDupsBy.loop r as kept ++ [a] := by
  induction as generalizing kept with
  | nil =>
    -- what is kept is collected in reverse, which makes no difference to what is in it
    simp only [List.nil_append, List.eraseDupsBy.loop, List.any_reverse]
    cases kept.any (r a) <;> simp
  | cons b as ih =>
    cases hkept : kept.any (r b) with
    | true => simpa only [List.cons_append, List.eraseDupsBy.loop, hkept] using ih kept
    | false => simpa only [List.cons_append, List.eraseDupsBy.loop, hkept] using ih (b :: kept)

/-- The file of one more finding comes last, if it is new. -/
theorem files_concat (fs : List Finding) (f : Finding) :
    files (fs ++ [f]) =
      if (files fs).any (·.same f.file) then files fs else files fs ++ [f.file] := by
  have hsame : (fun p : Path => p.same f.file) = f.file.same := funext fun p => p.same_comm f.file
  rw [hsame, files, List.map_append, List.map_singleton]
  exact eraseDupsBy_loop_concat Path.same (fs.map Finding.file) [] f.file

/-- The files that are kept are different paths. -/
theorem pairwise_files (fs : List Finding) :
    (files fs).Pairwise fun p q => p.same q = false := by
  -- from the end of the list on, as for everything about files: what is kept depends on what came
  -- before
  induction fs using List.reverseRecOn with
  | nil => exact List.Pairwise.nil
  | append_singleton fs f ih =>
    rw [files_concat]
    split
    · exact ih
    · rename_i hnew
      have hnone : ∀ p ∈ files fs, p.same f.file = false := by simpa using hnew
      refine List.pairwise_append.mpr ⟨ih, List.pairwise_singleton _ _, fun p hp q hq => ?_⟩
      rw [List.mem_singleton.mp hq]
      exact hnone p hp

theorem exists_files (hf : f ∈ fs) : ∃ p ∈ files fs, p.same f.file = true := by
  induction fs using List.reverseRecOn with
  | nil => cases hf
  | append_singleton fs g ih =>
    rw [files_concat]
    rcases List.mem_append.mp hf with hf | hf
    · obtain ⟨p, hp, hsame⟩ := ih hf
      split
      · exact ⟨p, hp, hsame⟩
      · exact ⟨p, List.mem_append_left _ hp, hsame⟩
    · obtain rfl := List.mem_singleton.mp hf
      split
      · rename_i hold
        exact List.any_eq_true.mp hold
      · exact ⟨f.file, List.mem_append_right _ List.mem_cons_self, Path.equivalence_same.refl _⟩

theorem nodup_components (fs : List Finding) : ((files fs).map Path.components).Nodup := by
  refine List.pairwise_map.mpr ((pairwise_files fs).imp fun hdiffer heq => ?_)
  rw [Path.same_iff.mpr heq] at hdiffer
  cases hdiffer

/-- **The path of a finding is the same as exactly one of the files that are kept.** -/
theorem existsUnique_files (hf : f ∈ fs) : ∃! p, p ∈ files fs ∧ p.same f.file = true := by
  obtain ⟨p, hp, hsame⟩ := exists_files hf
  refine ⟨p, ⟨hp, hsame⟩, fun q ⟨hq, hsame'⟩ => ?_⟩
  have hqp := (Path.same_iff.mp hsame').trans (Path.same_iff.mp hsame).symm
  exact List.inj_on_of_nodup_map (nodup_components fs) hq hp hqp

/-! ### The findings in a file -/

theorem inFile_concat (p : Path) (fs : List Finding) (f : Finding) :
    inFile p (fs ++ [f]) = if p.same f.file then inFile p fs ++ [f] else inFile p fs := by
  rw [inFile, List.filter_append, List.filter_singleton]
  split <;> simp_all [inFile]

theorem inFile_eq_nil (h : ∀ p ∈ files fs, p.same q = false) : inFile q fs = [] := by
  refine List.filter_eq_nil_iff.mpr fun f hf => Bool.eq_false_iff.mp ?_
  obtain ⟨p, hp, hsame⟩ := exists_files hf
  exact Path.same_eq_false_of_same (h p hp) hsame

/-- **A file is spelled as in the first finding in it.** -/
theorem head?_inFile (hp : p ∈ files fs) : (inFile p fs).head?.map Finding.file = some p := by
  induction fs using List.reverseRecOn with
  | nil => cases hp
  | append_singleton fs f ih =>
    -- later findings do not change which one is the first
    have hkept (hp : p ∈ files fs) : (inFile p (fs ++ [f])).head?.map Finding.file = some p := by
      obtain ⟨g, hg, rfl⟩ := Option.map_eq_some_iff.mp (ih hp)
      rw [inFile] at hg
      rw [inFile, List.filter_append, List.head?_append, hg]
      rfl
    rw [files_concat] at hp
    split at hp
    · exact hkept hp
    · rename_i hnew
      rcases List.mem_append.mp hp with hp | hp
      · exact hkept hp
      · obtain rfl := List.mem_singleton.mp hp
        rw [inFile_concat, if_pos (Path.equivalence_same.refl _),
          inFile_eq_nil (by simpa using hnew)]
        rfl

/-- The files that are kept are files of findings. -/
theorem exists_file_eq (hp : p ∈ files fs) : ∃ f ∈ fs, f.file = p := by
  obtain ⟨f, hf, rfl⟩ := Option.map_eq_some_iff.mp (head?_inFile hp)
  exact ⟨f, List.mem_of_mem_filter (List.mem_of_head? hf), rfl⟩

/-! ### Groups -/

theorem byFile_concat (fs : List Finding) (f : Finding) :
    byFile (fs ++ [f]) = addToGroups f (byFile fs) := by
  rw [byFile, List.foldl_append]
  rfl

/-- A finding in a new file comes into a group of its own, at the end. -/
theorem addToGroups_of_new {groups : List (Path × List Finding)}
    (h : ∀ g ∈ groups, g.1.same f.file = false) :
    addToGroups f groups = groups ++ [(f.file, [f])] := by
  induction groups with
  | nil => rfl
  | cons g groups ih =>
    rw [addToGroups, if_neg (by simp [h g List.mem_cons_self]),
      ih fun g' hg' => h g' (List.mem_cons_of_mem g hg')]
    rfl

/-- A finding in a file that has come up is added to the findings in that file. -/
theorem addToGroups_of_old {ps : List Path} (hps : ps.Pairwise fun p q => p.same q = false)
    (hold : ∃ p ∈ ps, p.same f.file = true) :
    addToGroups f (ps.map fun p => (p, inFile p fs)) =
      ps.map fun p => (p, inFile p (fs ++ [f])) := by
  induction ps with
  | nil =>
    obtain ⟨p, hp, -⟩ := hold
    cases hp
  | cons p ps ih =>
    obtain ⟨hfirst, hps⟩ := List.pairwise_cons.mp hps
    rw [List.map_cons, addToGroups, List.map_cons, inFile_concat]
    by_cases hp : p.same f.file = true
    · -- the other files are different paths, so what is in them stays as it is
      have hrest : ∀ q ∈ ps, q.same f.file = false := fun q hq =>
        Path.same_eq_false_of_same (hfirst q hq) hp
      rw [if_pos hp, if_pos hp]
      refine congrArg _ (List.map_congr_left fun q hq => ?_)
      rw [inFile_concat, if_neg (by simp [hrest q hq])]
    · have hold' : ∃ q ∈ ps, q.same f.file = true := by
        obtain ⟨q, hq, hqf⟩ := hold
        rcases List.mem_cons.mp hq with rfl | hq
        · exact absurd hqf hp
        · exact ⟨q, hq, hqf⟩
      rw [if_neg hp, if_neg hp, ih hps hold']

/-- **The groups are the files that are kept, with the findings in each of them.** -/
theorem byFile_eq (fs : List Finding) :
    byFile fs = (files fs).map fun p => (p, inFile p fs) := by
  induction fs using List.reverseRecOn with
  | nil => rfl
  | append_singleton fs f ih =>
    rw [byFile_concat, ih, files_concat]
    split
    · rename_i hold
      exact addToGroups_of_old (pairwise_files fs) (List.any_eq_true.mp hold)
    · rename_i hnew
      have hnone : ∀ p ∈ files fs, p.same f.file = false := by simpa using hnew
      rw [addToGroups_of_new (List.forall_mem_map.mpr hnone), List.map_append, List.map_singleton,
        inFile_concat, if_pos (Path.equivalence_same.refl _), inFile_eq_nil hnone]
      refine congrArg (· ++ _) (List.map_congr_left fun p hp => ?_)
      rw [inFile_concat, if_neg (by simp [hnone p hp])]

theorem of_mem_byFile {g : Path × List Finding} (hg : g ∈ byFile fs) :
    g.1 ∈ files fs ∧ g.2 = inFile g.1 fs := by
  rw [byFile_eq] at hg
  obtain ⟨p, hp, rfl⟩ := List.mem_map.mp hg
  exact ⟨hp, rfl⟩

/-- Adding a finding to groups adds nothing else and takes nothing away. -/
theorem perm_addToGroups (f : Finding) (groups : List (Path × List Finding)) :
    ((addToGroups f groups).flatMap Prod.snd).Perm (f :: groups.flatMap Prod.snd) := by
  induction groups with
  | nil => exact List.Perm.refl [f]
  | cons g groups ih =>
    rw [addToGroups]
    split
    · rw [List.flatMap_cons, List.flatMap_cons, List.append_assoc]
      exact List.perm_middle
    · rw [List.flatMap_cons, List.flatMap_cons]
      exact (ih.append_left g.2).trans List.perm_middle

theorem perm_byFile (fs : List Finding) : ((byFile fs).flatMap Prod.snd).Perm fs := by
  induction fs using List.reverseRecOn with
  | nil => exact List.Perm.refl []
  | append_singleton fs f ih =>
    rw [byFile_concat]
    exact (perm_addToGroups f (byFile fs)).trans
      ((ih.cons f).trans (List.perm_append_singleton f fs).symm)

/-- There are as many files as there are different paths. -/
theorem length_files (fs : List Finding) :
    (files fs).length = (fs.map fun f => f.file.components).toFinset.card := by
  have hsame : ((files fs).map Path.components).toFinset =
      (fs.map fun f => f.file.components).toFinset := by
    ext c
    simp only [List.mem_toFinset, List.mem_map]
    constructor
    · rintro ⟨p, hp, rfl⟩
      obtain ⟨f, hf, rfl⟩ := exists_file_eq hp
      exact ⟨f, hf, rfl⟩
    · rintro ⟨f, hf, rfl⟩
      obtain ⟨p, hp, hpf⟩ := exists_files hf
      exact ⟨p, hp, Path.same_iff.mp hpf⟩
  rw [← hsame, List.toFinset_card_of_nodup (nodup_components fs), List.length_map]

/-- **Groups part some findings by file.** -/
structure PartByFile (groups : List (Path × List Finding)) (fs : List Finding) : Prop where
  /-- The files are those of the findings, each once: in the place and in the spelling in which
  it first comes up. -/
  files_eq : groups.map Prod.fst = (fs.map Finding.file).eraseDupsBy Path.same
  /-- No two of them are the same path. -/
  files_differ : (groups.map Prod.fst).Pairwise fun p q => p.same q = false
  /-- A group holds the findings in its file, in their order. -/
  group_eq : ∀ g ∈ groups, g.2 = fs.filter fun f => g.1.same f.file
  /-- There is a first one in it, which spells the file as the group does. -/
  head_eq : ∀ g ∈ groups, g.2.head?.map Finding.file = some g.1
  /-- A finding is in exactly one group. -/
  existsUnique_group : ∀ f ∈ fs, ∃! g, g ∈ groups ∧ f ∈ g.2
  /-- All groups together hold the findings, each as often as it comes up. -/
  perm : (groups.flatMap Prod.snd).Perm fs
  /-- The sizes of the groups add up to the number of findings. -/
  sum_length : (groups.map fun g => g.2.length).sum = fs.length
  /-- There are as many groups as there are different paths. -/
  length_eq : groups.length = (fs.map fun f => f.file.components).toFinset.card

theorem existsUnique_byFile (hf : f ∈ fs) : ∃! g, g ∈ byFile fs ∧ f ∈ g.2 := by
  obtain ⟨p, ⟨hp, hsame⟩, hunique⟩ := existsUnique_files hf
  rw [byFile_eq]
  refine ⟨(p, inFile p fs), ⟨List.mem_map_of_mem hp, List.mem_filter.mpr ⟨hf, hsame⟩⟩, ?_⟩
  rintro g ⟨hg, hfg⟩
  obtain ⟨q, hq, rfl⟩ := List.mem_map.mp hg
  rw [hunique q ⟨hq, (List.mem_filter.mp hfg).2⟩]

/-- **Findings are parted by file**, where two spellings of a path are not told apart: a slash may
be repeated, and a dot may stand between two slashes. -/
theorem partByFile_byFile (fs : List Finding) :
    PartByFile (byFile fs) fs ∧ Equivalence (fun p q : Path => p.same q = true) ∧
      ∀ s t : Text, Path.same ⟨s ++ '/' :: '/' :: t⟩ ⟨s ++ '/' :: t⟩ = true ∧
        Path.same ⟨s ++ '/' :: '.' :: '/' :: t⟩ ⟨s ++ '/' :: t⟩ = true := by
  have hfiles : (byFile fs).map Prod.fst = files fs := by
    rw [byFile_eq, List.map_map]
    exact List.map_id (files fs)
  refine ⟨?_, Path.equivalence_same, fun s t => ⟨Path.same_slashes s t, Path.same_dot s t⟩⟩
  exact {
    files_eq := hfiles
    files_differ := hfiles ▸ pairwise_files fs
    group_eq := fun g hg => (of_mem_byFile hg).2
    head_eq := fun g hg => (of_mem_byFile hg).2 ▸ head?_inFile (of_mem_byFile hg).1
    existsUnique_group := fun f hf => existsUnique_byFile hf
    perm := perm_byFile fs
    sum_length := by rw [← List.length_flatMap, (perm_byFile fs).length_eq]
    length_eq := by rw [byFile_eq, List.length_map, length_files] }

end GnuLint.Findings
