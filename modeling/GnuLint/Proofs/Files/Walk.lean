import GnuLint.Files.Disk
import GnuLint.Proofs.Except
import Mathlib.Data.List.DropRight

/-!
# Where a path leads and where it may write

A path is looked up in two ways: reading follows it to its end
(`GnuLint.Disk.locate`), and writing looks for its last name in a directory
(`GnuLint.Disk.place`). The two agree wherever the path leads to something
(`GnuLint.Disk.placeFrom_of_walk`): a file is written at the very location that it is
read from (`GnuLint.Disk.put_of_write`), and a directory that is there is never created
again (`GnuLint.Disk.createDirectories_of_isDirectory`).

Following a path looks only at what is a directory and what is a file, never at the
contents of a file, so a path leads to the same location on two disks of the same shape
(`GnuLint.Disk.SameShape`).
-/

namespace GnuLint.Disk

variable {d d' : Disk} {l m : Location}

@[simp] theorem at?_root (d : Disk) : d.at? [] = some .directory := by
  rw [at?, if_pos rfl]

/-! ### Walking along stretches -/

/-- A stretch is looked up in a directory. -/
theorem directory_of_walk_cons {s : Text} {rest : List Text}
    (h : d.walk l (s :: rest) = .ok m) : d.at? l = some .directory := by
  rw [walk] at h
  split at h
  · exact absurd h (by simp)
  · exact absurd h (by simp)
  · assumption

theorem walk_cons_idle {s : Text} (rest : List Text) (hl : d.at? l = some .directory)
    (hs : Path.isIdle s = true) : d.walk l (s :: rest) = d.walk l rest := by
  rw [walk, hl]
  exact if_pos hs

theorem walk_cons_name {s : Text} (rest : List Text) (hl : d.at? l = some .directory)
    (hs : Path.isIdle s = false) :
    d.walk l (s :: rest) = (descend l s).bind fun next => d.walk next rest := by
  rw [walk, hl]
  simp only [hs, Bool.false_eq_true, if_false]
  cases descend l s <;> rfl

/-- Following some stretches and then others: if all of them can be followed, then so can
the first ones. -/
theorem walk_append {s t : List Text} (h : d.walk l (s ++ t) = .ok m) :
    ∃ k, d.walk l s = .ok k ∧ d.walk k t = .ok m := by
  induction s generalizing l with
  | nil => exact ⟨l, rfl, h⟩
  | cons a s ih =>
    have hl : d.at? l = some .directory := directory_of_walk_cons h
    cases ha : Path.isIdle a with
    | true =>
      rw [List.cons_append, walk_cons_idle _ hl ha] at h
      rw [walk_cons_idle _ hl ha]
      exact ih h
    | false =>
      rw [List.cons_append, walk_cons_name _ hl ha] at h
      rw [walk_cons_name _ hl ha]
      cases hn : descend l a with
      | error e => simp [hn, Except.bind] at h
      | ok next =>
        rw [hn] at h
        exact ih h

/-- Following stretches one after the other. -/
theorem walk_append_of_walk {k : Location} {s t : List Text} (hs : d.walk l s = .ok k)
    (ht : d.walk k t = .ok m) : d.walk l (s ++ t) = .ok m := by
  induction s generalizing l with
  | nil =>
    obtain rfl : l = k := Except.ok.inj hs
    exact ht
  | cons a s ih =>
    have hl : d.at? l = some .directory := directory_of_walk_cons hs
    rw [List.cons_append]
    cases ha : Path.isIdle a with
    | true =>
      rw [walk_cons_idle _ hl ha] at hs ⊢
      exact ih hs
    | false =>
      rw [walk_cons_name _ hl ha] at hs ⊢
      cases hn : descend l a with
      | error e => simp [hn, Except.bind] at hs
      | ok next =>
        rw [hn] at hs
        exact ih hs

/-- Idle stretches lead nowhere else. -/
theorem eq_of_walk_idle {s : List Text} (hs : ∀ a ∈ s, Path.isIdle a = true)
    (h : d.walk l s = .ok m) : l = m := by
  induction s with
  | nil => exact Except.ok.inj h
  | cons a s ih =>
    rw [walk_cons_idle _ (directory_of_walk_cons h) (hs a List.mem_cons_self)] at h
    exact ih (fun b hb => hs b (List.mem_cons_of_mem a hb)) h

/-! ### Reading and writing lead to the same place -/

/-- The stretches of a path that has a last name: those before it, the name, and the
empty stretches after it. -/
theorem eq_append_slashes {stretches : List Text}
    (h : stretches.rdropWhile List.isEmpty ≠ []) :
    ∃ start last slashes, stretches = start ++ last :: slashes ∧ last ≠ [] ∧
      (∀ a ∈ slashes, a = []) ∧ stretches.rdropWhile List.isEmpty = start ++ [last] := by
  rcases List.eq_nil_or_concat' (stretches.rdropWhile List.isEmpty) with hnil | ⟨start, last, hc⟩
  · exact absurd hnil h
  refine ⟨start, last, stretches.rtakeWhile List.isEmpty, ?_, ?_, fun a ha => ?_, hc⟩
  · rw [← List.singleton_append, ← List.append_assoc, ← hc, List.rdropWhile_append_rtakeWhile]
  · have hlast := List.rdropWhile_last_not List.isEmpty stretches h
    simp only [hc, List.getLast_append_singleton] at hlast
    exact fun he => hlast (by rw [he, List.isEmpty_nil])
  · exact List.isEmpty_iff.mp (List.mem_rtakeWhile_imp ha)

/-- The place of some stretches with a last name, by the directory that the name is
looked up in. -/
theorem placeFrom_of_directory {stretches start slashes : List Text} {last : Text}
    (hs : stretches = start ++ last :: slashes)
    (hbare : stretches.rdropWhile List.isEmpty = start ++ [last])
    (hwalk : d.walk l start = .ok m) (hm : d.at? m = some .directory) :
    d.placeFrom l stretches =
      if last = ['.'] || last = ['.', '.'] then .ok .standing
      else (descend m last).map (.entry · (!slashes.isEmpty)) := by
  have hdir : d.walk l (start ++ [[]]) = .ok m :=
    walk_append_of_walk hwalk (walk_cons_idle [] hm rfl)
  have hslashed : decide ((start ++ [last]).length < stretches.length) = !slashes.isEmpty := by
    rw [hs]
    cases slashes <;> simp
  have hbare' : (stretches.reverse.dropWhile List.isEmpty).reverse = start ++ [last] := hbare
  simp only [placeFrom, hbare', List.getLast?_append, List.getLast?_singleton, Option.some_or,
    List.dropLast_concat, hdir, hslashed]

/-- **Where a path leads to something, it is written there**: the place of some
stretches that can be followed is the location that they lead to, unless they end in
dots. After a slash at the end there is a directory. -/
theorem placeFrom_of_walk {stretches : List Text} (h : d.walk l stretches = .ok m) :
    d.placeFrom l stretches = .ok .standing ∨
      ∃ slashed, d.placeFrom l stretches = .ok (.entry m slashed) ∧
        (slashed = true → d.at? m = some .directory) := by
  by_cases hbare : stretches.rdropWhile List.isEmpty = []
  · left
    have hbare' : (stretches.reverse.dropWhile List.isEmpty).reverse = [] := hbare
    simp only [placeFrom, hbare', List.getLast?_nil]
  obtain ⟨start, last, slashes, hs, hlast, hslashes, hbare⟩ := eq_append_slashes hbare
  rw [hs] at h
  obtain ⟨k, hk, hrest⟩ := walk_append h
  have hdir : d.at? k = some .directory := directory_of_walk_cons hrest
  rw [placeFrom_of_directory hs hbare hk hdir]
  by_cases hdots : last = ['.'] ∨ last = ['.', '.']
  · exact Or.inl (if_pos (by simpa using hdots))
  right
  have hname : Path.isIdle last = false := by
    simp only [not_or] at hdots
    simp [Path.isIdle, hlast, hdots.1]
  rw [walk_cons_name _ hdir hname] at hrest
  rw [if_neg (by simpa using hdots)]
  cases hnext : descend k last with
  | error e => simp [hnext, Except.bind] at hrest
  | ok next =>
    replace hrest : d.walk next slashes = .ok m := by rwa [hnext] at hrest
    obtain rfl : next = m :=
      eq_of_walk_idle (fun a ha => by rw [hslashes a ha]; rfl) hrest
    refine ⟨_, rfl, fun hslashed => ?_⟩
    cases slashes with
    | nil => simp at hslashed
    | cons a slashes => exact directory_of_walk_cons hrest

/-- A path that leads to something leads to a place. -/
theorem place_of_locate {p : Path} (h : d.locate p = .ok m) :
    d.place p = .ok .standing ∨
      ∃ slashed, d.place p = .ok (.entry m slashed) ∧
        (slashed = true → d.at? m = some .directory) := by
  rw [locate] at h
  rw [place]
  split at h
  · simp at h
  · exact placeFrom_of_walk h

/-- The location that a path leads to a node at. -/
theorem locate_of_find {p : Path} {n : Node} (h : d.find p = .ok n) :
    ∃ l, d.locate p = .ok l ∧ d.at? l = some n := by
  obtain ⟨l, hl, hn⟩ := bind_eq_ok_iff.mp h
  refine ⟨l, hl, ?_⟩
  split at hn
  · rw [← Except.ok.inj hn]
    assumption
  · simp at hn

/-- The location at which a path writes. -/
theorem put_of_write {p : Path} {contents : Bytes} (h : d.write p contents = .ok d') :
    ∃ l, d.place p = .ok (.entry l false) ∧ d.at? l ≠ some .directory ∧
      d' = d.put l (.file contents) := by
  obtain ⟨place, hp, hput⟩ := bind_eq_ok_iff.mp h
  cases place with
  | standing => simp at hput
  | entry l slashed =>
    simp only at hput
    split at hput
    · simp at hput
    · rename_i hno
      simp only [Bool.or_eq_true, decide_eq_true_eq, not_or, Bool.not_eq_true] at hno
      exact ⟨l, by rw [hp, hno.1], hno.2, (Except.ok.inj hput).symm⟩

/-- **A file is written at the location that it is read from.** -/
theorem put_of_write_of_find {p : Path} {old new : Bytes} (hread : d.find p = .ok (.file old))
    (hwrite : d.write p new = .ok d') :
    ∃ l, d.locate p = .ok l ∧ d' = d.put l (.file new) := by
  obtain ⟨l, hl, -⟩ := locate_of_find hread
  obtain ⟨m, hm, -, rfl⟩ := put_of_write hwrite
  rcases place_of_locate hl with hs | ⟨slashed, hs, -⟩
  · rw [hs] at hm
    simp at hm
  · rw [hs] at hm
    obtain ⟨rfl, -⟩ : l = m ∧ slashed = false := by simpa using hm
    exact ⟨l, hl, rfl⟩

/-! ### Directories that are there -/

theorem find_of_isDirectory {p : Path} (h : d.isDirectory p = true) :
    d.find p = .ok .directory := by
  rw [isDirectory] at h
  split at h
  · assumption
  · simp at h

/-- A directory that is there cannot be created. -/
theorem createDirectory_of_isDirectory {p : Path} (h : d.isDirectory p = true) :
    d.createDirectory p = .error .alreadyExists := by
  obtain ⟨l, hl, hdir⟩ := locate_of_find (find_of_isDirectory h)
  rw [createDirectory]
  rcases place_of_locate hl with hs | ⟨slashed, hs, -⟩
  · rw [hs]
    rfl
  · simp only [hs, bind, Except.bind, hdir]

/-- **Creating a directory that is there changes nothing.** -/
theorem createDirectories_of_isDirectory {p : Path} (h : d.isDirectory p = true) :
    d.createDirectories p = (d, .ok ()) := by
  have hcons : ∃ above, p.ancestors = p :: above := by
    rw [Path.ancestors]
    cases p.components.length with
    | zero => exact ⟨[], rfl⟩
    | succ n =>
      rw [Path.ancestorsWithin]
      split
      · exact ⟨[], rfl⟩
      · exact ⟨_, rfl⟩
  obtain ⟨above, habove⟩ := hcons
  rw [createDirectories, habove, createAll]
  split
  · rfl
  · rw [createDirectory_of_isDirectory h]
    exact if_pos h

/-! ### Disks of the same shape -/

/-- **Two disks have the same shape** if they have the same directories and files at the
same locations; the contents of the files may differ. -/
structure SameShape (d d' : Disk) : Prop where
  workingDirectory : d.workingDirectory = d'.workingDirectory
  at? (l : Location) : d.at? l = d'.at? l ∨
    ∃ old new, d.at? l = some (.file old) ∧ d'.at? l = some (.file new)

namespace SameShape

theorem refl (d : Disk) : SameShape d d := ⟨rfl, fun _ => Or.inl rfl⟩

theorem trans {d'' : Disk} (h : SameShape d d') (h' : SameShape d' d'') : SameShape d d'' where
  workingDirectory := h.workingDirectory.trans h'.workingDirectory
  at? l := by
    rcases h.at? l with he | ⟨old, mid, ho, hm⟩
    · rw [he]
      exact h'.at? l
    rcases h'.at? l with he' | ⟨_, new, -, hn⟩
    · exact Or.inr ⟨old, mid, ho, he' ▸ hm⟩
    · exact Or.inr ⟨old, new, ho, hn⟩

/-- New contents of a file leave the shape as it is. -/
theorem put {old : Bytes} (hl : d.at? l = some (.file old)) (new : Bytes) :
    SameShape d (d.put l (.file new)) where
  workingDirectory := rfl
  at? k := by
    have hroot : l ≠ [] := by
      rintro rfl
      simp at hl
    rw [at?_put d hroot]
    split
    · subst k
      exact Or.inr ⟨old, new, hl, rfl⟩
    · exact Or.inl rfl

theorem walk (h : SameShape d d') (l : Location) (s : List Text) : d.walk l s = d'.walk l s := by
  induction s generalizing l with
  | nil => rfl
  | cons a s ih =>
    rw [Disk.walk, Disk.walk]
    rcases h.at? l with he | ⟨old, new, ho, hn⟩
    · rw [he]
      simp only [ih]
    · rw [ho, hn]

/-- **On disks of the same shape, a path leads to the same location.** -/
theorem locate (h : SameShape d d') (p : Path) : d.locate p = d'.locate p := by
  simp only [Disk.locate, origin, h.workingDirectory, h.walk]

end SameShape

end GnuLint.Disk
