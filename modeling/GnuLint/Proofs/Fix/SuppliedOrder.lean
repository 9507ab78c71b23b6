import GnuLint.Proofs.Fix.LineLocality

/-!
# The order in which findings are given

Before findings are fixed they are put in order, by lines and on a line from the right to the
left. Of the order in which they were given, this keeps how the findings in one place follow
each other (`GnuLint.Findings.inPlace_inOrder`), and it keeps nothing else: findings in order
are determined by those in each place (`GnuLint.Findings.inOrder_eq_iff`).

So if no two findings share a place, they may be given in any order
(`GnuLint.fixText_of_perm`). Findings that share one are fixed in the order in which they are
given, and the outcome may depend on it.
-/

namespace GnuLint

namespace Findings

variable {f g : Finding} {fs gs : List Finding} {line column : Nat}

/-! ### Findings in one place -/

/-- The findings in a place: on a line and in a column. -/
def inPlace (line column : Nat) (fs : List Finding) : List Finding :=
  fs.filter fun f => f.line = line ∧ f.column = column

theorem mem_inPlace_iff :
    f ∈ inPlace line column fs ↔ f ∈ fs ∧ f.line = line ∧ f.column = column := by
  rw [inPlace, List.mem_filter, decide_eq_true_eq]

theorem inPlace_cons (line column : Nat) (f : Finding) (fs : List Finding) :
    inPlace line column (f :: fs) = inPlace line column [f] ++ inPlace line column fs :=
  List.filter_append [f] fs

theorem inPlace_singleton_of_not (h : ¬(f.line = line ∧ f.column = column)) :
    inPlace line column [f] = [] :=
  List.filter_cons_of_neg (by simpa using h)

theorem inPlace_cons_self (f : Finding) (fs : List Finding) :
    inPlace f.line f.column (f :: fs) = f :: inPlace f.line f.column fs :=
  List.filter_cons_of_pos (by simp)

/-- A finding that comes before another one is in another place. -/
theorem not_or_not_of_isBefore (h : isBefore g f = true) (line column : Nat) :
    ¬(g.line = line ∧ g.column = column) ∨ ¬(f.line = line ∧ f.column = column) := by
  rw [isBefore, Bool.or_eq_true, Bool.and_eq_true, decide_eq_true_eq, decide_eq_true_eq,
    beq_iff_eq] at h
  omega

/-- **Two findings of which none comes before the other one are in one place.** -/
theorem place_eq_of_not_isBefore (hfg : isBefore f g = false) (hgf : isBefore g f = false) :
    g.line = f.line ∧ g.column = f.column := by
  rw [isBefore_eq_false_iff] at hfg hgf
  omega

/-! ### Places determine the order -/

theorem inPlace_insertInOrder (line column : Nat) (f : Finding) (fs : List Finding) :
    inPlace line column (insertInOrder f fs) = inPlace line column (f :: fs) := by
  induction fs with
  | nil => rfl
  | cons g gs ih =>
    rw [insertInOrder]
    split
    · rename_i hbefore
      rw [inPlace_cons line column g (insertInOrder f gs), ih, inPlace_cons line column f gs,
        inPlace_cons line column f (g :: gs), inPlace_cons line column g gs]
      -- at most one of the two is in the place, so it does not matter which one goes first
      rcases not_or_not_of_isBefore hbefore line column with hg | hf
      · rw [inPlace_singleton_of_not hg, List.nil_append, List.nil_append]
      · rw [inPlace_singleton_of_not hf, List.nil_append, List.nil_append]
    · rfl

/-- **Findings in one place are fixed in the order in which they are given.** -/
theorem inPlace_inOrder (line column : Nat) (fs : List Finding) :
    inPlace line column (inOrder fs) = inPlace line column fs := by
  induction fs with
  | nil => rfl
  | cons f fs ih =>
    rw [inOrder, inPlace_insertInOrder, inPlace_cons, ih, ← inPlace_cons]

/-- Findings in order that are the same in each place are the same. -/
theorem eq_of_inPlace_eq (hfs : fs.Pairwise fun f f' => isBefore f' f = false)
    (hgs : gs.Pairwise fun g g' => isBefore g' g = false)
    (h : ∀ line column, inPlace line column fs = inPlace line column gs) : fs = gs := by
  induction fs generalizing gs with
  | nil =>
    cases gs with
    | nil => rfl
    | cons g gs =>
      have hnone := h g.line g.column
      rw [inPlace_cons_self] at hnone
      cases hnone
  | cons f fs ih =>
    have hf : f ∈ gs := by
      have hmem : f ∈ inPlace f.line f.column (f :: fs) := by
        rw [inPlace_cons_self]
        exact List.mem_cons_self
      rw [h] at hmem
      exact (mem_inPlace_iff.mp hmem).1
    cases gs with
    | nil => cases hf
    | cons g gs =>
      obtain ⟨hfirst, hrest⟩ := List.pairwise_cons.mp hfs
      obtain ⟨hfirst', hrest'⟩ := List.pairwise_cons.mp hgs
      have hg : g ∈ f :: fs := by
        have hmem : g ∈ inPlace g.line g.column (g :: gs) := by
          rw [inPlace_cons_self]
          exact List.mem_cons_self
        rw [← h] at hmem
        exact (mem_inPlace_iff.mp hmem).1
      -- each of the two that come first is in the other list, so they are in one place
      have hplace : g.line = f.line ∧ g.column = f.column := by
        rcases List.mem_cons.mp hf with rfl | hf
        · exact ⟨rfl, rfl⟩
        rcases List.mem_cons.mp hg with rfl | hg
        · exact ⟨rfl, rfl⟩
        exact place_eq_of_not_isBefore (hfirst' f hf) (hfirst g hg)
      have hsame := inPlace_cons_self g gs
      rw [hplace.1, hplace.2, ← h, inPlace_cons_self] at hsame
      obtain rfl : f = g := (List.cons.inj hsame).1
      refine congrArg (f :: ·) (ih hrest hrest' fun line column => ?_)
      have hmore := h line column
      rw [inPlace_cons, inPlace_cons _ _ f gs] at hmore
      exact List.append_cancel_left hmore

/-- **The order of findings is determined by those in each place**, and determines them. -/
theorem inOrder_eq_iff :
    inOrder fs = inOrder gs ↔
      ∀ line column, inPlace line column fs = inPlace line column gs := by
  constructor
  · intro h line column
    rw [← inPlace_inOrder, h, inPlace_inOrder]
  · intro h
    refine eq_of_inPlace_eq (pairwise_inOrder fs) (pairwise_inOrder gs) fun line column => ?_
    rw [inPlace_inOrder, inPlace_inOrder]
    exact h line column

/-- If no two findings share a place, those in a place are the same in whatever order all of
them are given. -/
theorem inPlace_eq_of_perm (hperm : fs.Perm gs)
    (hplaces : fs.Pairwise fun f g => ¬(f.line = g.line ∧ f.column = g.column))
    (line column : Nat) : inPlace line column fs = inPlace line column gs := by
  have hperm' : (inPlace line column fs).Perm (inPlace line column gs) := hperm.filter _
  have hapart : (inPlace line column fs).Pairwise
      fun f g => ¬(f.line = g.line ∧ f.column = g.column) := hplaces.filter _
  have hplace : ∀ f ∈ inPlace line column fs, f.line = line ∧ f.column = column :=
    fun f hf => (mem_inPlace_iff.mp hf).2
  rcases hfs : inPlace line column fs with _ | ⟨f, _ | ⟨g, rest⟩⟩
  · rw [hfs] at hperm'
    exact hperm'.nil_eq
  · rw [hfs] at hperm'
    exact (List.perm_singleton.mp hperm'.symm).symm
  · rw [hfs] at hapart hplace
    have hf := hplace f (by simp)
    have hg := hplace g (by simp)
    exact absurd ⟨hf.1.trans hg.1.symm, hf.2.trans hg.2.symm⟩
      ((List.pairwise_cons.mp hapart).1 g List.mem_cons_self)

end Findings

/-! ### The outcome -/

variable {fs gs : List Finding}

/-- **The outcome depends on the order of findings only**: whatever is done about them, it is
done in this order. -/
theorem fixText_congr (h : Findings.inOrder fs = Findings.inOrder gs) (registry : Registry)
    (validator : Validator) (path : Path) (text : Text) :
    fixText registry validator path text fs = fixText registry validator path text gs := by
  rw [fixText, fixText, fixUnchecked, fixUnchecked, h]

/-- **Findings may be given in any order**, as long as no two of them share a place: the text to
write, the records in their order and the verdict are the same. -/
theorem fixText_of_perm (hperm : fs.Perm gs)
    (hplaces : fs.Pairwise fun f g => ¬(f.line = g.line ∧ f.column = g.column))
    (registry : Registry) (validator : Validator) (path : Path) (text : Text) :
    fixText registry validator path text fs = fixText registry validator path text gs :=
  fixText_congr (Findings.inOrder_eq_iff.mpr (Findings.inPlace_eq_of_perm hperm hplaces))
    registry validator path text

/-- Two findings on one line, the left one first. -/
def Finding.shortenings : List Finding :=
  [1, 4].map fun column => { shortening with column, content := "ab ab".toList }

/-- The one on the right is fixed first, wherever it stands in the list. -/
theorem fixText_of_perm_reverse :
    Finding.shortenings.Perm Finding.shortenings.reverse ∧
      Finding.shortenings.Pairwise (fun f g => ¬(f.line = g.line ∧ f.column = g.column)) ∧
      (fixText ∅ (fun _ => .ok ()) (.ofString "script.sh") "ab ab\n".toList
        Finding.shortenings).map FixResult.applied =
          .ok [⟨1, 4, "shortening", "ab ab".toList, "ab c".toList⟩,
            ⟨1, 1, "shortening", "ab c".toList, "c c".toList⟩] ∧
      fixText ∅ (fun _ => .ok ()) (.ofString "script.sh") "ab ab\n".toList
          Finding.shortenings =
        fixText ∅ (fun _ => .ok ()) (.ofString "script.sh") "ab ab\n".toList
          Finding.shortenings.reverse := by
  have hperm : Finding.shortenings.Perm Finding.shortenings.reverse :=
    (List.reverse_perm Finding.shortenings).symm
  have hplaces : Finding.shortenings.Pairwise
      fun f g => ¬(f.line = g.line ∧ f.column = g.column) := by
    decide +kernel
  exact ⟨hperm, hplaces, by decide +kernel, fixText_of_perm hperm hplaces ∅ (fun _ => .ok ())
    (.ofString "script.sh") "ab ab\n".toList⟩

/-- Of two findings in one place, the first one leaves nothing for the other one to find. -/
example :
    let g := { Finding.shortening with rule.id := "lengthening", rule.template := some "abc" }
    fixText ∅ (fun _ => .ok ()) (.ofString "script.sh") "x ab\n".toList [.shortening, g] ≠
      fixText ∅ (fun _ => .ok ()) (.ofString "script.sh") "x ab\n".toList [g, .shortening] := by
  decide +kernel

end GnuLint
