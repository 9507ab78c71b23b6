import GnuLint.Fix.File
import GnuLint.Proofs.Except

/-!
# What creating directories changes

Creating directories puts them where nothing was, whether it succeeds or not, and leaves
everything else as it is (`GnuLint.Disk.Grows`).
-/

namespace GnuLint

namespace Disk

/-- **A disk grows** when directories come to be where nothing was. -/
def Grows (d d' : Disk) : Prop :=
  ∀ l, d'.at? l = d.at? l ∨ (d.at? l = none ∧ d'.at? l = some .directory)

namespace Grows

variable {d d' d'' : Disk}

theorem refl (d : Disk) : Grows d d := fun _ => Or.inl rfl

theorem trans (h : Grows d d') (h' : Grows d' d'') : Grows d d'' := by
  intro l
  rcases h' l with he' | ⟨hn', hd'⟩
  · rcases h l with he | ⟨hn, hd⟩
    · exact Or.inl (he'.trans he)
    · exact Or.inr ⟨hn, he'.trans hd⟩
  · rcases h l with he | ⟨-, hd⟩
    · exact Or.inr ⟨he ▸ hn', hd'⟩
    · rw [hd] at hn'
      simp at hn'

/-- What is there when a disk grows is still there afterwards. -/
theorem at?_of_ne_none (h : Grows d d') {l : Location} (hl : d.at? l ≠ none) :
    d'.at? l = d.at? l :=
  (h l).resolve_right fun hc => hl hc.1

end Grows

variable {d d' : Disk}

theorem grows_put_directory {l : Location} (h : d.at? l = none) :
    Grows d (d.put l .directory) := by
  intro k
  have hroot : l ≠ [] := by
    rintro rfl
    simp [at?] at h
  rw [at?_put d hroot]
  by_cases hk : k = l
  · rw [if_pos hk, hk]
    exact Or.inr ⟨h, rfl⟩
  · rw [if_neg hk]
    exact Or.inl rfl

/-! ### Creating directories -/

theorem put_of_createDirectory {p : Path} (h : d.createDirectory p = .ok d') :
    ∃ l, d.at? l = none ∧ d' = d.put l .directory := by
  obtain ⟨place, -, hplace⟩ := bind_eq_ok_iff.mp h
  cases place with
  | standing => simp at hplace
  | entry l slashed =>
    simp only at hplace
    split at hplace
    · simp at hplace
    · exact ⟨l, ‹_›, (Except.ok.inj hplace).symm⟩

section Induction

variable {P : Disk → Prop}
  (hput : ∀ d l, P d → d.at? l = none → P (d.put l .directory))

include hput

theorem settle_induction (p : Path) (h : P d) : P (d.settle p (d.createDirectory p)).1 := by
  cases hcreate : d.createDirectory p with
  | ok d' =>
    obtain ⟨l, hl, rfl⟩ := put_of_createDirectory hcreate
    exact hput d l h hl
  | error e =>
    rw [settle]
    split <;> exact h

theorem createAll_induction (ps : List Path) (h : P d) : P (d.createAll ps).1 := by
  induction ps with
  | nil => exact h
  | cons p above ih =>
    have hsettle := settle_induction hput p h
    rw [createAll]
    split
    · exact h
    split
    · -- the directories above are missing and are created first
      split
      · rename_i habove
        rwa [habove] at ih
      · rename_i habove
        rw [habove] at ih
        exact settle_induction hput p ih
    · exact hsettle

/-- **What holds after creating the directory of a path**: whatever holds before, and is
kept when a directory comes to be where nothing was. -/
theorem createParent_induction (p : Path) (h : P d) : P (d.createParent p).1 := by
  rw [createParent]
  split
  · exact h
  · split
    · exact h
    · exact createAll_induction hput _ h

end Induction

theorem grows_createParent (d : Disk) (p : Path) : Grows d (d.createParent p).1 :=
  createParent_induction (fun _ _ h hl => h.trans (grows_put_directory hl)) p (Grows.refl d)

end Disk

end GnuLint
