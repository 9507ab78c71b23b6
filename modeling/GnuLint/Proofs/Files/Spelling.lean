import GnuLint.Proofs.Files.LastName

/-!
# Spellings of one path

Two paths are compared by their parts, so being the same path is an equivalence relation on
spellings. From a slash on, a path is known by the stretches that count for something, whatever
stands before the slash (`GnuLint.Path.components_congr`); a second slash or a dot of its own
after it makes no difference (`GnuLint.Path.same_slashes`, `GnuLint.Path.same_dot`).
-/

namespace GnuLint.Path

variable {p q r : Path} {s t u : Text} {start : Option PathPart} {parts : List Text}

theorem same_comm (p q : Path) : p.same q = q.same p :=
  BEq.comm

theorem equivalence_same : Equivalence fun p q : Path => p.same q = true := by
  simp only [same_iff]
  exact ⟨fun _ => rfl, Eq.symm, Eq.trans⟩

/-- A path is not the same as two different ones. -/
theorem same_eq_false_of_same (hdiffer : p.same q = false) (hp : p.same r = true) :
    q.same r = false := by
  refine Bool.eq_false_iff.mpr fun hq => Bool.eq_false_iff.mp hdiffer ?_
  exact equivalence_same.trans hp (equivalence_same.symm hq)

/-! ### Stretches that count for nothing -/

/-- A path that goes on after a slash begins as it did, and more stretches follow. -/
theorem Splits.append_slash (h : Splits s start parts) (hne : s ≠ []) (t : Text) :
    Splits (s ++ '/' :: t) start (parts ++ splitSlashes t) := by
  cases h with
  | root s =>
    rw [← splitSlashes_append]
    exact .root (s ++ '/' :: t)
  | dot => exact .here t
  | here s =>
    rw [← splitSlashes_append]
    exact .here (s ++ '/' :: t)
  | bare s hroot hdot =>
    obtain ⟨c, s, rfl⟩ := List.exists_cons_of_ne_nil hne
    rw [← splitSlashes_append]
    refine .bare _ hroot ?_
    rw [splitSlashes_append, List.head?_append_of_ne_nil]
    · exact hdot
    · rw [splitSlashes_eq_splitOn]
      exact List.splitOn_ne_nil '/' _

/-- **From a slash on, only the stretches that count for something matter.** -/
theorem components_congr
    (h : (splitSlashes t).filter (!isIdle ·) = (splitSlashes u).filter (!isIdle ·)) (s : Text) :
    components ⟨s ++ '/' :: t⟩ = components ⟨s ++ '/' :: u⟩ := by
  rw [components_eq, components_eq]
  cases s with
  | nil => exact congrArg (fun parts => PathPart.root :: parts.map part) h
  | cons c s =>
    have hsplits := splits_split ⟨c :: s⟩
    rw [Splits.split_eq (hsplits.append_slash (List.cons_ne_nil c s) t),
      Splits.split_eq (hsplits.append_slash (List.cons_ne_nil c s) u)]
    simp only [List.filter_append, h]

/-- A slash may be repeated. -/
theorem same_slashes (s t : Text) : same ⟨s ++ '/' :: '/' :: t⟩ ⟨s ++ '/' :: t⟩ = true :=
  same_iff.mpr (components_congr (List.filter_cons_of_neg (by decide)) s)

/-- A dot may stand between two slashes. -/
theorem same_dot (s t : Text) : same ⟨s ++ '/' :: '.' :: '/' :: t⟩ ⟨s ++ '/' :: t⟩ = true := by
  have hsplit : splitSlashes ('.' :: '/' :: t) = ['.'] :: splitSlashes t := rfl
  refine same_iff.mpr (components_congr ?_ s)
  rw [hsplit, List.filter_cons_of_neg (by decide)]

end GnuLint.Path
