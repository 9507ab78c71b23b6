import GnuLint.Proofs.Script.Heredoc
import GnuLint.Script.Region
import Mathlib.Order.Nat

/-!
# The regions of a script

Whether a line is excluded is decided from line to line, by a region that the line before leaves
behind. This file tells the excluded lines without the region. They are the ranges of lines that one
finds from the beginning of the script on (`GnuLint.AreRegions`): a range begins at the first line
that opens a here-document and is no comment, goes up to and including the first later line that
holds the delimiter and nothing else but blanks, or else to the end of the script, and the next
range is looked for after it.

A here-document is left only through its delimiter. Since the delimiter is an identifier
(`GnuLint.Region.IsNamed.foldl`), it has no blanks of its own, so there is a line that leaves the
document, and such lines differ in nothing but the blanks at their ends
(`GnuLint.Region.next_inside_eq_outside_iff`).
-/

namespace GnuLint

variable {lines : List Text} {line d : Text} {start i j k : Nat}

/-! ### Lines that open and close -/

theorem isComment_iff : isComment line = true ↔ (Text.trim line).head? = some '#' := by
  rw [Text.head?_trim, isComment, beq_iff_eq]

theorem opens?_eq_some_iff :
    opens? line = some d ↔
      (Text.trim line).head? ≠ some '#' ∧ Heredoc.delimiter? line = some d := by
  rw [opens?, ne_eq, ← isComment_iff]
  cases isComment line <;> simp

/-- **A line opens a here-document** with a delimiter: it is no comment, and has an opener. -/
def OpensAt (lines : List Text) (d : Text) (i : Nat) : Prop :=
  ∃ line, lines[i]? = some line ∧ (Text.trim line).head? ≠ some '#' ∧
    Heredoc.delimiter? line = some d

/-- **A line closes a here-document** with a delimiter: nothing else is left of it when it is
trimmed. -/
def ClosesAt (lines : List Text) (d : Text) (i : Nat) : Prop :=
  ∃ line, lines[i]? = some line ∧ Text.trim line = d

theorem OpensAt.exists_line (h : OpensAt lines d i) :
    ∃ line, lines[i]? = some line ∧ opens? line = some d := by
  obtain ⟨line, hline, hopens⟩ := h
  exact ⟨line, hline, opens?_eq_some_iff.mpr hopens⟩

theorem opensAt_iff (hline : lines[i]? = some line) :
    OpensAt lines d i ↔ opens? line = some d := by
  constructor
  · intro h
    obtain ⟨other, hother, hopens⟩ := h.exists_line
    rwa [Option.some.inj (hline.symm.trans hother)]
  · intro h
    exact ⟨line, hline, opens?_eq_some_iff.mp h⟩

theorem closesAt_iff (hline : lines[i]? = some line) :
    ClosesAt lines d i ↔ Text.trim line = d := by
  constructor
  · rintro ⟨other, hother, h⟩
    rwa [Option.some.inj (hline.symm.trans hother)]
  · intro h
    exact ⟨line, hline, h⟩

/-! ### Ranges of lines -/

/-- **The first number from a start on** with a property. -/
structure IsFirst (P : Nat → Prop) (start i : Nat) : Prop where
  /-- It does not come before the start. -/
  le : start ≤ i
  /-- It has the property. -/
  holds : P i
  /-- No number in between has it. -/
  least {k : Nat} : start ≤ k → k < i → ¬P k

theorem IsFirst.unique {P : Nat → Prop} (h : IsFirst P start i) (h' : IsFirst P start j) :
    i = j := by
  rcases Nat.lt_trichotomy i j with hlt | heq | hlt
  · exact absurd h.holds (h'.least h.le hlt)
  · exact heq
  · exact absurd h'.holds (h.least h'.le hlt)

theorem exists_isFirst {P : Nat → Prop} (hle : start ≤ i) (hi : P i) : ∃ j, IsFirst P start j := by
  classical
  have hex : ∃ k, start ≤ k ∧ P k := ⟨i, hle, hi⟩
  obtain ⟨hstart, hfound⟩ := Nat.find_spec hex
  exact ⟨Nat.find hex, hstart, hfound, fun hk hlt hP => Nat.find_min hex hlt ⟨hk, hP⟩⟩

/-- Some lines, one after the other: those from a first one up to another one, which is no longer
among them. -/
structure LineRange where
  /-- The first line. -/
  first : Nat
  /-- The line after the last one. -/
  stop : Nat
  deriving DecidableEq, Repr

/-- Whether a line is in a range. -/
def LineRange.holds (r : LineRange) (i : Nat) : Bool := decide (r.first ≤ i ∧ i < r.stop)

theorem LineRange.holds_eq_false_of_lt {r : LineRange} (h : k < r.first) : r.holds k = false :=
  decide_eq_false fun hk => Nat.not_le.mpr h hk.1

theorem LineRange.holds_eq_false_of_le {r : LineRange} (h : r.stop ≤ k) : r.holds k = false :=
  decide_eq_false fun hk => Nat.not_lt.mpr h hk.2

/-- **The regions of a script** from a line on that is in none. -/
inductive AreRegions (lines : List Text) : (start : Nat) → List LineRange → Prop
  /-- No line opens a here-document. -/
  | none {start : Nat} : (∀ i d, start ≤ i → ¬OpensAt lines d i) → AreRegions lines start []
  /-- The first one that is opened is closed. -/
  | closed {start i j : Nat} {d : Text} {more : List LineRange} :
    IsFirst (fun k => ∃ d, OpensAt lines d k) start i → OpensAt lines d i →
      IsFirst (ClosesAt lines d) (i + 1) j → AreRegions lines (j + 1) more →
        AreRegions lines start (⟨i, j + 1⟩ :: more)
  /-- The first one that is opened is never closed. -/
  | unclosed {start i : Nat} {d : Text} :
    IsFirst (fun k => ∃ d, OpensAt lines d k) start i → OpensAt lines d i →
      (∀ j, i + 1 ≤ j → ¬ClosesAt lines d j) → AreRegions lines start [⟨i, lines.length⟩]

variable {regions others : List LineRange}

theorem ClosesAt.lt_length (h : ClosesAt lines d i) : i < lines.length := by
  obtain ⟨line, hline, -⟩ := h
  exact (List.getElem?_eq_some_iff.mp hline).1

theorem OpensAt.delimiter_unique {d' : Text} (h : OpensAt lines d i) (h' : OpensAt lines d' i) :
    d = d' := by
  obtain ⟨line, hline, hopens⟩ := h.exists_line
  exact Option.some.inj (hopens.symm.trans ((opensAt_iff hline).mp h'))

/-- **Every script has regions.** -/
theorem exists_areRegions (lines : List Text) (start : Nat) :
    ∃ regions, AreRegions lines start regions := by
  induction hn : lines.length - start using Nat.strongRecOn generalizing start with
  | _ n ih =>
    by_cases hopens : ∃ i d, start ≤ i ∧ OpensAt lines d i
    · obtain ⟨i, d, hle, hopen⟩ := hopens
      obtain ⟨i, hfirst⟩ := exists_isFirst (P := fun k => ∃ d, OpensAt lines d k) hle ⟨d, hopen⟩
      obtain ⟨d, hopen⟩ := hfirst.holds
      by_cases hcloses : ∃ j, i + 1 ≤ j ∧ ClosesAt lines d j
      · obtain ⟨j, hj, hclose⟩ := hcloses
        obtain ⟨j, hlast⟩ := exists_isFirst hj hclose
        have hstart := hfirst.le
        have hnext := hlast.le
        have hlength := hlast.holds.lt_length
        obtain ⟨more, hmore⟩ := ih (lines.length - (j + 1)) (by omega) (j + 1) rfl
        exact ⟨_, .closed hfirst hopen hlast hmore⟩
      · exact ⟨_, .unclosed hfirst hopen fun j hj hclose => hcloses ⟨j, hj, hclose⟩⟩
    · exact ⟨[], .none fun i d hle hopen => hopens ⟨i, d, hle, hopen⟩⟩

/-- **The regions of a script** are determined by its lines. -/
theorem AreRegions.unique (h : AreRegions lines start regions)
    (h' : AreRegions lines start others) : others = regions := by
  induction h generalizing others with
  | none hnone =>
    cases h' with
    | none => rfl
    | closed hfirst hopen | unclosed hfirst hopen => exact absurd hopen (hnone _ _ hfirst.le)
  | closed hfirst hopen hlast _ ih =>
    cases h' with
    | none hnone => exact absurd hopen (hnone _ _ hfirst.le)
    | closed hfirst' hopen' hlast' hmore' =>
      obtain rfl := hfirst.unique hfirst'
      obtain rfl := hopen.delimiter_unique hopen'
      obtain rfl := hlast.unique hlast'
      rw [ih hmore']
    | unclosed hfirst' hopen' hnever =>
      obtain rfl := hfirst.unique hfirst'
      obtain rfl := hopen.delimiter_unique hopen'
      exact absurd hlast.holds (hnever _ hlast.le)
  | unclosed hfirst hopen hnever =>
    cases h' with
    | none hnone => exact absurd hopen (hnone _ _ hfirst.le)
    | closed hfirst' hopen' hlast' =>
      obtain rfl := hfirst.unique hfirst'
      obtain rfl := hopen.delimiter_unique hopen'
      exact absurd hlast'.holds (hnever _ hlast'.le)
    | unclosed hfirst' => rw [hfirst.unique hfirst']

theorem AreRegions.le_first (h : AreRegions lines start regions) {r : LineRange}
    (hr : r ∈ regions) : start ≤ r.first := by
  induction h with
  | none => cases hr
  | closed hfirst _ hlast _ ih =>
    obtain rfl | hr := List.mem_cons.mp hr
    · exact hfirst.le
    · have hstart := hfirst.le
      have hnext := hlast.le
      have hlater := ih hr
      omega
  | unclosed hfirst =>
    obtain rfl := List.mem_singleton.mp hr
    exact hfirst.le

/-- **Regions lie apart**, one after the other. -/
theorem AreRegions.pairwise (h : AreRegions lines start regions) :
    regions.Pairwise fun r r' => r.stop ≤ r'.first := by
  induction h with
  | none => exact .nil
  | closed _ _ _ hmore ih => exact .cons (fun r hr => hmore.le_first hr) ih
  | unclosed => exact List.pairwise_singleton _ _

/-! ### The region before a line -/

namespace Region

/-- The region that is left behind by the lines before a line. -/
def before (lines : List Text) (i : Nat) : Region := (lines.take i).foldl next outside

theorem before_zero (lines : List Text) : before lines 0 = outside := rfl

theorem before_succ (hline : lines[i]? = some line) :
    before lines (i + 1) = (before lines i).next line := by
  rw [before, List.take_add_one, hline, List.foldl_append]
  rfl

theorem before_succ_of_length_le (hi : lines.length ≤ i) :
    before lines (i + 1) = before lines i := by
  rw [before, before, List.take_of_length_le hi, List.take_of_length_le (Nat.le_succ_of_le hi)]

theorem opens?_eq_none (hline : lines[i]? = some line) (hnone : ∀ d, ¬OpensAt lines d i) :
    opens? line = none := by
  rw [Option.eq_none_iff_forall_ne_some]
  exact fun d hd => hnone d ((opensAt_iff hline).mpr hd)

/-- **As long as nothing opens, the region is outside.** -/
theorem before_eq_outside (hstart : before lines start = outside) (hle : start ≤ i)
    (hnone : ∀ k d, start ≤ k → k < i → ¬OpensAt lines d k) : before lines i = outside := by
  induction i, hle using Nat.le_induction with
  | base => exact hstart
  | succ i hle ih =>
    have hbefore := ih fun k d hk hlt => hnone k d hk (Nat.lt_succ_of_lt hlt)
    cases hline : lines[i]? with
    | none => rwa [before_succ_of_length_le (List.getElem?_eq_none_iff.mp hline)]
    | some line =>
      have hopens : opens? line = none :=
        opens?_eq_none hline fun d => hnone i d hle (Nat.lt_succ_self i)
      rw [before_succ hline, hbefore, next, hopens]
      rfl

/-- **As long as nothing closes it, the region is the same.** -/
theorem before_eq_inside (hstart : before lines start = inside d) (hle : start ≤ i)
    (hnone : ∀ k, start ≤ k → k < i → ¬ClosesAt lines d k) : before lines i = inside d := by
  induction i, hle using Nat.le_induction with
  | base => exact hstart
  | succ i hle ih =>
    have hbefore := ih fun k hk hlt => hnone k hk (Nat.lt_succ_of_lt hlt)
    cases hline : lines[i]? with
    | none => rwa [before_succ_of_length_le (List.getElem?_eq_none_iff.mp hline)]
    | some line =>
      have hcloses : Text.trim line ≠ d := fun h =>
        hnone i hle (Nat.lt_succ_self i) ((closesAt_iff hline).mpr h)
      rw [before_succ hline, hbefore, next, if_neg hcloses]

theorem before_succ_of_opensAt (hbefore : before lines i = outside) (hopen : OpensAt lines d i) :
    before lines (i + 1) = inside d := by
  obtain ⟨line, hline, hopens⟩ := hopen.exists_line
  rw [before_succ hline, hbefore, next, hopens]
  rfl

theorem before_succ_of_closesAt (hbefore : before lines i = inside d)
    (hclose : ClosesAt lines d i) : before lines (i + 1) = outside := by
  obtain ⟨line, hline, htrim⟩ := hclose
  rw [before_succ hline, hbefore, next, if_pos htrim]

/-! ### The excluded lines -/

/-- Up to a line that is the first to open a here-document, the region is outside. -/
theorem before_eq_outside_of_isFirst (hstart : before lines start = outside)
    (hfirst : IsFirst (fun k => ∃ d, OpensAt lines d k) start i) (hle : start ≤ k) (hki : k ≤ i) :
    before lines k = outside :=
  before_eq_outside hstart hle fun _ d hj hjk hopen =>
    hfirst.least hj (Nat.lt_of_lt_of_le hjk hki) ⟨d, hopen⟩

/-- The line that opens a here-document is excluded, and so are those after it that do not close
it, and the first one that does. -/
theorem excludes_eq_true (hbefore : before lines i = outside) (hopen : OpensAt lines d i)
    (hle : i ≤ k) (hnone : ∀ j, i + 1 ≤ j → j < k → ¬ClosesAt lines d j)
    (hline : lines[k]? = some line) : (before lines k).excludes line = true := by
  obtain rfl | hlt := Nat.eq_or_lt_of_le hle
  · rw [hbefore, excludes, (opensAt_iff hline).mp hopen]
    rfl
  · rw [before_eq_inside (before_succ_of_opensAt hbefore hopen) hlt hnone, excludes_inside]

/-- **Up to the end of the first region**, the excluded lines are those in it: before the line that
opens the here-document there is none. -/
theorem excludes_eq_holds {stop : Nat} (hstart : before lines start = outside)
    (hfirst : IsFirst (fun k => ∃ d, OpensAt lines d k) start i) (hopen : OpensAt lines d i)
    (hnone : ∀ m, i + 1 ≤ m → m + 1 < stop → ¬ClosesAt lines d m) (hle : start ≤ k)
    (hk : k < stop) (hline : lines[k]? = some line) :
    (before lines k).excludes line = LineRange.holds ⟨i, stop⟩ k := by
  rcases Nat.lt_or_ge k i with hki | hki
  · have hclosed : opens? line = none :=
      opens?_eq_none hline fun d hopen => hfirst.least hle hki ⟨d, hopen⟩
    rw [before_eq_outside_of_isFirst hstart hfirst hle hki.le, excludes, hclosed,
      LineRange.holds_eq_false_of_lt hki]
    rfl
  · have hbefore : before lines i = outside :=
      before_eq_outside_of_isFirst hstart hfirst hfirst.le (Nat.le_refl i)
    have hinside : ∀ m, i + 1 ≤ m → m < k → ¬ClosesAt lines d m := fun m hm hmk =>
      hnone m hm (by omega)
    rw [excludes_eq_true hbefore hopen hki hinside hline]
    exact (decide_eq_true ⟨hki, hk⟩).symm

/-- **The excluded lines are those in the regions.** -/
theorem excludes_eq_any (h : AreRegions lines start regions)
    (hstart : before lines start = outside) (hle : start ≤ k) (hline : lines[k]? = some line) :
    (before lines k).excludes line = regions.any (·.holds k) := by
  induction h with
  | none hnone =>
    have hbefore : before lines k = outside :=
      before_eq_outside hstart hle fun j d hj _ => hnone j d hj
    rw [hbefore, excludes, opens?_eq_none hline fun d => hnone k d hle]
    rfl
  | @closed start i j d more hfirst hopen hlast hmore ih =>
    rw [List.any_cons]
    rcases Nat.lt_or_ge k (j + 1) with hk | hk
    · have hinside : ∀ m, i + 1 ≤ m → m + 1 < j + 1 → ¬ClosesAt lines d m := fun m hm hmj =>
        hlast.least hm (Nat.lt_of_succ_lt_succ hmj)
      have hlater : more.any (·.holds k) = false :=
        List.any_eq_false.mpr fun r hr => by
          simp [LineRange.holds_eq_false_of_lt (Nat.lt_of_lt_of_le hk (hmore.le_first hr))]
      rw [excludes_eq_holds hstart hfirst hopen hinside hle hk hline, hlater, Bool.or_false]
    · -- the first region has been left, and the next one is looked for from here on
      have hbefore : before lines i = outside :=
        before_eq_outside_of_isFirst hstart hfirst hfirst.le (Nat.le_refl i)
      have hinside : before lines j = inside d :=
        before_eq_inside (before_succ_of_opensAt hbefore hopen) hlast.le fun _ => hlast.least
      have hafter := before_succ_of_closesAt hinside hlast.holds
      rw [ih hafter hk, LineRange.holds_eq_false_of_le hk, Bool.false_or]
  | unclosed hfirst hopen hnever =>
    have hlength : k < lines.length := (List.getElem?_eq_some_iff.mp hline).1
    rw [excludes_eq_holds hstart hfirst hopen (fun m hm _ => hnever m hm) hle hlength hline,
      List.any_cons, List.any_nil, Bool.or_false]

theorem getElem?_mark (region : Region) (lines : List Text) (i : Nat) :
    (mark region lines)[i]? =
      lines[i]?.map fun line => (line, ((lines.take i).foldl next region).excludes line) := by
  induction lines generalizing region i with
  | nil => rfl
  | cons line lines ih =>
    cases i with
    | zero => rfl
    | succ i =>
      rw [mark, List.getElem?_cons_succ, ih]
      rfl

/-! ### The way out -/

/-- A region that is named by an identifier, if it is a here-document. -/
def IsNamed : Region → Prop
  | outside => True
  | inside d => Heredoc.IsIdentifier d

theorem IsNamed.next {region : Region} (h : region.IsNamed) (line : Text) :
    (region.next line).IsNamed := by
  cases region with
  | outside =>
    rw [Region.next]
    cases hopens : opens? line with
    | none => exact trivial
    | some d => exact Heredoc.isIdentifier_of_delimiter? (opens?_eq_some_iff.mp hopens).2
  | inside d =>
    rw [Region.next]
    split
    · exact trivial
    · exact h

/-- **Every region that is reached** is named by an identifier. -/
theorem IsNamed.foldl {region : Region} (h : region.IsNamed) (lines : List Text) :
    (lines.foldl Region.next region).IsNamed := by
  induction lines generalizing region with
  | nil => exact h
  | cons line lines ih => exact ih (h.next line)

/-- **A here-document is left** by a line that has its delimiter and nothing else but blanks. -/
theorem next_inside_eq_outside_iff (hd : Heredoc.IsIdentifier d) :
    (inside d).next line = outside ↔
      ∃ left right, Text.isAllBlank left = true ∧ Text.isAllBlank right = true ∧
        line = left ++ d ++ right := by
  have hblank : ∀ c ∈ d, Text.isBlank c = false := fun c hc =>
    Heredoc.isBlank_eq_false_of_isIdentChar (hd.2 c hc)
  rw [← Text.trim_eq_iff hblank, next]
  constructor
  · intro h
    by_contra hne
    rw [if_neg hne] at h
    cases h
  · exact fun h => if_pos h

theorem next_inside_cases (d line : Text) :
    (inside d).next line = outside ∨ (inside d).next line = inside d := by
  rw [next]
  split
  · exact .inl rfl
  · exact .inr rfl

/-- **The excluded lines of a script** are those in its regions, which are determined by the lines
and lie apart, one after the other. A here-document that some lines leave open is named by an
identifier; a line leaves it exactly if it has the identifier and nothing else but blanks, and no
other line changes the region. -/
theorem mark_outside (lines : List Text) :
    (∃ regions, AreRegions lines 0 regions ∧
      (∀ others, AreRegions lines 0 others → others = regions) ∧
      (regions.Pairwise fun r r' => r.stop ≤ r'.first) ∧
      ∀ i, (mark outside lines)[i]? =
        lines[i]?.map fun line => (line, regions.any (·.holds i))) ∧
    ∀ d, lines.foldl next outside = inside d → Heredoc.IsIdentifier d ∧ ∀ line,
      ((inside d).next line = outside ↔
        ∃ left right, Text.isAllBlank left = true ∧ Text.isAllBlank right = true ∧
          line = left ++ d ++ right) ∧
      ((inside d).next line = outside ∨ (inside d).next line = inside d) := by
  constructor
  · obtain ⟨regions, hregions⟩ := exists_areRegions lines 0
    refine ⟨regions, hregions, fun others h => hregions.unique h, hregions.pairwise, fun i => ?_⟩
    rw [getElem?_mark]
    refine Option.map_congr fun line hline => ?_
    rw [← excludes_eq_any hregions (before_zero lines) (Nat.zero_le i) hline]
    rfl
  · intro d hd
    have houtside : outside.IsNamed := trivial
    have hnamed : (inside d).IsNamed := hd ▸ houtside.foldl lines
    exact ⟨hnamed, fun line => ⟨next_inside_eq_outside_iff hnamed, next_inside_cases d line⟩⟩

/-- A comment opens nothing, and in a here-document nothing else is opened. -/
example : (mark outside (["# <<B", "cat <<A", "cat <<B", "\t A ", "B"].map String.toList)).map
    Prod.snd = [false, true, true, true, false] := by
  decide +kernel

end Region

end GnuLint
