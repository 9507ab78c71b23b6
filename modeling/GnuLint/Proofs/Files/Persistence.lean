import GnuLint.Proofs.Files.Growth
import GnuLint.Proofs.Files.LastName
import GnuLint.Proofs.Text.Utf8

/-!
# What stays on a disk

A disk is kept except for some names if whatever is on it stays there, save that files with
one of these names may get new contents (`GnuLint.Disk.KeptExcept`). Directories stay then,
so paths keep leading to the same locations (`GnuLint.Disk.KeptExcept.locate`), and a file
with another name keeps its text (`GnuLint.Disk.KeptExcept.readText`). What is written to a
path can be read there (`GnuLint.Disk.readText_of_write`).
-/

namespace GnuLint.Disk

variable {d d' d'' : Disk} {p : Path} {l m : Location} {names names' : List Text} {n : Text}

/-! ### The text of a file -/

/-- A text that is read is that of a file, and it is written as the bytes of that file. -/
theorem file_of_readText {text : Text} (h : d.readText p = .ok text) :
    d.find p = .ok (.file (Bytes.ofText text)) := by
  obtain ⟨bytes, hread, hdecode⟩ := bind_eq_ok_iff.mp h
  obtain ⟨n, hfind, hfile⟩ := bind_eq_ok_iff.mp hread
  cases n with
  | directory => simp at hfile
  | file contents =>
    obtain rfl : contents = bytes := Except.ok.inj hfile
    split at hdecode
    · rename_i t ht
      obtain rfl : t = text := Except.ok.inj hdecode
      rw [hfind, Bytes.ofText_of_toText? ht]
    · simp at hdecode

/-- The text of a file. -/
theorem readText_of_locate {text : Text} (h : d.locate p = .ok l)
    (hl : d.at? l = some (.file (Bytes.ofText text))) : d.readText p = .ok text := by
  simp only [readText, read, find, h, bind, Except.bind, hl, Bytes.toText?_ofText]

/-! ### Disks that are kept -/

/-- **A disk is kept except for files with some names.** -/
structure KeptExcept (names : List Text) (d d' : Disk) : Prop where
  workingDirectory : d'.workingDirectory = d.workingDirectory
  at? (l : Location) : d'.at? l = d.at? l ∨ d.at? l = none ∨
    (d.at? l ≠ some .directory ∧ ∃ n ∈ names, l.head? = some n)

namespace KeptExcept

theorem refl (names : List Text) (d : Disk) : KeptExcept names d d := ⟨rfl, fun _ => .inl rfl⟩

theorem trans (h : KeptExcept names d d') (h' : KeptExcept names d' d'') :
    KeptExcept names d d'' where
  workingDirectory := h'.workingDirectory.trans h.workingDirectory
  at? l := by
    rcases h.at? l with he | hrest
    · rw [← he]
      exact h'.at? l
    · exact .inr hrest

theorem mono (h : KeptExcept names d d') (hsub : names ⊆ names') : KeptExcept names' d d' where
  workingDirectory := h.workingDirectory
  at? l := by
    rcases h.at? l with he | hn | ⟨hdir, n, hn, hl⟩
    · exact .inl he
    · exact .inr (.inl hn)
    · exact .inr (.inr ⟨hdir, n, hsub hn, hl⟩)

theorem put_directory (hl : d.at? l = none) : KeptExcept [] d (d.put l .directory) where
  workingDirectory := rfl
  at? k := (grows_put_directory hl k).imp_right fun hk => .inl hk.1

theorem createParent (d : Disk) (p : Path) : KeptExcept [] d (d.createParent p).1 :=
  createParent_induction (fun _ _ h hl => h.trans (put_directory hl)) p (refl [] d)

theorem put_file (hl : d.at? l ≠ some .directory) (hn : l.head? = some n) (contents : Bytes) :
    KeptExcept [n] d (d.put l (.file contents)) where
  workingDirectory := rfl
  at? k := by
    have hroot : l ≠ [] := by
      rintro rfl
      cases hn
    rw [at?_put d hroot]
    by_cases hk : k = l
    · subst hk
      exact .inr (.inr ⟨hl, n, List.mem_singleton_self n, hn⟩)
    · rw [if_neg hk]
      exact .inl rfl

/-! ### What stays -/

variable (h : KeptExcept names d d')

include h

theorem directory (hl : d.at? l = some .directory) : d'.at? l = some .directory := by
  rcases h.at? l with he | hn | ⟨hdir, -⟩
  · rw [he, hl]
  · rw [hn] at hl
    cases hl
  · exact absurd hl hdir

theorem walk {s : List Text} (hwalk : d.walk l s = .ok m) : d'.walk l s = .ok m := by
  induction s generalizing l with
  | nil => exact hwalk
  | cons a s ih =>
    have hl := directory_of_walk_cons hwalk
    have hl' := h.directory hl
    cases ha : Path.isIdle a with
    | true =>
      rw [walk_cons_idle _ hl ha] at hwalk
      rw [walk_cons_idle _ hl' ha]
      exact ih hwalk
    | false =>
      rw [walk_cons_name _ hl ha] at hwalk
      rw [walk_cons_name _ hl' ha]
      cases hnext : descend l a with
      | error e => simp [hnext, Except.bind] at hwalk
      | ok next =>
        rw [hnext] at hwalk
        exact ih hwalk

/-- **Paths keep leading where they lead.** -/
theorem locate (hlocate : d.locate p = .ok l) : d'.locate p = .ok l := by
  have horigin : d'.origin p = d.origin p := by rw [origin, origin, h.workingDirectory]
  rw [Disk.locate] at hlocate ⊢
  split at hlocate
  · cases hlocate
  · rw [horigin]
    exact h.walk hlocate

/-- **A file with another name keeps its text.** -/
theorem readText {text : Text} (hread : d.readText p = .ok text) (hp : p.fileName? = some n)
    (hn : n ∉ names) : d'.readText p = .ok text := by
  obtain ⟨l, hl, hfile⟩ := locate_of_find (file_of_readText hread)
  refine readText_of_locate (h.locate hl) ?_
  rcases h.at? l with he | hnone | ⟨-, n', hn', hl'⟩
  · rw [he, hfile]
  · rw [hnone] at hfile
    cases hfile
  · obtain rfl : n = n' := Option.some.inj ((head?_of_locate hl hp).symm.trans hl')
    exact absurd hn' hn

end KeptExcept

/-! ### What is written -/

/-- **What is written to a path can be read there.** -/
theorem readText_of_write {text : Text} (h : d.write p (Bytes.ofText text) = .ok d') :
    d'.readText p = .ok text := by
  obtain ⟨l, hplace, hdir, rfl⟩ := put_of_write h
  have hroot : l ≠ [] := by
    rintro rfl
    exact hdir (at?_root d)
  have hfile : (d.put l (.file (Bytes.ofText text))).at? l = some (.file (Bytes.ofText text)) := by
    rw [at?_put d hroot, if_pos rfl]
  have hlocate := locate_of_place hplace
  obtain ⟨n, k, rfl⟩ := List.exists_cons_of_ne_nil hroot
  exact readText_of_locate ((KeptExcept.put_file hdir rfl _).locate hlocate) hfile

end GnuLint.Disk
