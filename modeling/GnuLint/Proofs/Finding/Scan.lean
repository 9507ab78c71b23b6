import GnuLint.Finding.Scan
import GnuLint.Proofs.Except
import GnuLint.Proofs.Script.Region

/-!
# What a scan finds

A scan carries a region from line to line, stops at the first line that cannot be read,
and passes lines and rules over for five different reasons. What it finds can be told
without any of that: each line has findings of its own, which depend on the lines before
it only through the region (`GnuLint.RuleSet.Gives`), and the findings of the scan are
those of the lines, one after the other (`GnuLint.RuleSet.scanReads_spec`).

On a line that is neither excluded nor blank, there is exactly one finding for each rule
that reports the line (`GnuLint.Rule.Reports`), in the order of rules, and it shows the
first occurrence of the pattern of the rule (`GnuLint.Finding.Shows`).
-/

namespace GnuLint

/-! ### Rules that report a line -/

namespace Rule

variable {r : Rule} {lines : List Text} {line : Text}

/-- **A rule reports a line** of a script, if the line is looked at: it applies to the
first line of the script, it targets comments if the line is one, its pattern occurs on
the line, and its negative pattern does not. -/
structure Reports (r : Rule) (lines : List Text) (line : Text) : Prop where
  /-- The rule applies to the script. -/
  applies {p : Pattern} : r.shebangMatch = some p →
    ∃ first, lines.head? = some first ∧ p.isMatch first = true
  /-- The rule is meant for comments if the line is one. -/
  targets : (Text.trim line).head? = some '#' → ['^', '#'] <+: r.pattern.source.toList
  /-- The pattern occurs on the line. -/
  occurs : r.pattern.isMatch line = true
  /-- The negative pattern does not. -/
  stands {p : Pattern} : r.negativePattern = some p → p.isMatch line = false

theorem isActiveFor_iff {first : Option Text} :
    r.isActiveFor first = true ↔
      ∀ p, r.shebangMatch = some p → ∃ line, first = some line ∧ p.isMatch line = true := by
  unfold isActiveFor
  split
  · rename_i hnone
    simp [hnone]
  · rename_i p line hsome
    simp [hsome]
  · rename_i p hsome
    simp [hsome]

theorem looksAt_iff :
    r.looksAt line = true ↔
      ((Text.trim line).head? = some '#' → ['^', '#'] <+: r.pattern.source.toList) := by
  have hprefix : ['^', '#'] <+: r.pattern.source.toList ↔ r.targetsComments = true := by
    rw [targetsComments, beq_iff_eq, List.prefix_iff_eq_take, eq_comm]
    rfl
  rw [← isComment_iff, looksAt, hprefix]
  cases isComment line <;> simp

theorem reports_iff :
    r.Reports lines line ↔ (r.isActiveFor lines.head? = true ∧ r.looksAt line = true) ∧
      r.pattern.isMatch line = true ∧ r.negativePattern.any (·.isMatch line) = false := by
  rw [isActiveFor_iff, looksAt_iff]
  constructor
  · intro h
    refine ⟨⟨fun _ => h.applies, h.targets⟩, h.occurs, ?_⟩
    cases hp : r.negativePattern with
    | none => rfl
    | some p => exact h.stands hp
  · rintro ⟨⟨happlies, htargets⟩, hoccurs, hstands⟩
    refine ⟨fun {p} => happlies p, htargets, hoccurs, fun {p} hp => ?_⟩
    rw [hp] at hstands
    exact hstands

instance : Decidable (r.Reports lines line) := decidable_of_iff' _ reports_iff

end Rule

/-! ### The findings on a line -/

/-- **A finding shows what a rule finds** on a line of a file: the first occurrence of its
pattern. -/
structure Finding.Shows (f : Finding) (r : Rule) (file : Path) (number : Nat) (line : Text) :
    Prop where
  rule_eq : f.rule = r
  file_eq : f.file = file
  line_eq : f.line = number
  content_eq : f.content = line
  occurrence : ∃ o, r.pattern.find? line = some o ∧
    f.column = Text.byteLength o.before + 1 ∧ f.matched = o.matched

namespace Rule

variable {r : Rule} {file : Path} {number : Nat} {lines : List Text} {line : Text}

theorem shows_of_findingOn? {f : Finding} (h : r.findingOn? file number line = some f) :
    f.Shows r file number line := by
  rw [findingOn?] at h
  split at h
  · cases h
  · rename_i o ho
    split at h
    · cases h
    · rw [← Option.some.inj h]
      exact ⟨rfl, rfl, rfl, rfl, o, ho, rfl, rfl⟩

theorem isSome_findingOn? (file : Path) (number : Nat) :
    (r.findingOn? file number line).isSome = true ↔
      r.pattern.isMatch line = true ∧ r.negativePattern.any (·.isMatch line) = false := by
  rw [Pattern.isMatch_eq_isSome_find?, findingOn?]
  cases r.pattern.find? line with
  | none => simp
  | some o => cases r.negativePattern.any (·.isMatch line) <;> simp

/-- Looking at a line gives a rule's finding if it reports the line, and none
otherwise. -/
theorem reports_cases (file : Path) (number : Nat) (h : r.isActiveFor lines.head? = true) :
    (r.Reports lines line ∧ ∃ f, f.Shows r file number line ∧
        (if r.looksAt line then r.findingOn? file number line else none) = some f) ∨
      (¬r.Reports lines line ∧
        (if r.looksAt line then r.findingOn? file number line else none) = none) := by
  rw [reports_iff, ← isSome_findingOn? file number]
  cases r.looksAt line with
  | false => simp
  | true =>
    cases hf : r.findingOn? file number line with
    | none => simp
    | some f => simp [h, shows_of_findingOn? hf]

end Rule

variable {file : Path} {number : Nat} {lines : List Text}

/-- **On a line that is not blank, each rule that reports it gives one finding.** -/
theorem forall₂_findingsOn (rules : List Rule) {line : Text} (h : Text.trim line ≠ []) :
    List.Forall₂ (fun r f => Finding.Shows f r file number line)
      (rules.filter fun r => r.Reports lines line)
      (findingsOn (rules.filter fun r => r.isActiveFor lines.head?) file number line) := by
  rw [findingsOn, if_neg (mt Text.trim_eq_nil_iff.mpr h)]
  induction rules with
  | nil => exact List.Forall₂.nil
  | cons r rules ih =>
    -- a rule that does not apply is dropped before the line is looked at
    cases hactive : r.isActiveFor lines.head? with
    | false =>
      have hsilent : ¬r.Reports lines line := by
        rw [Rule.reports_iff, hactive]
        simp
      rwa [List.filter_cons_of_neg (by simpa using hsilent),
        List.filter_cons_of_neg (by simp [hactive])]
    | true =>
      rw [List.filter_cons_of_pos (p := fun r => Rule.isActiveFor r lines.head?) hactive]
      rcases Rule.reports_cases file number hactive with ⟨hreports, f, hshows, hf⟩ | ⟨hsilent, hf⟩
      · rw [List.filter_cons_of_pos (by simpa using hreports)]
        simp only [List.filterMap_cons, hf]
        exact List.Forall₂.cons hshows ih
      · rw [List.filter_cons_of_neg (by simpa using hsilent)]
        simp only [List.filterMap_cons, hf]
        exact ih

/-! ### All lines -/

/-- The findings on some lines fall into groups, one for each line; the region of a line
is what the lines before it have made of the first one. -/
theorem findingsFrom_eq_flatten (rules : List Rule) (file : Path) (number : Nat) (region : Region)
    (lines : List Text) :
    ∃ groups : List (List Finding), findingsFrom rules file number region lines = groups.flatten ∧
      groups.length = lines.length ∧
      ∀ i line, lines[i]? = some line → groups[i]? = some
        (if ((lines.take i).foldl Region.next region).excludes line then []
          else findingsOn rules file (number + i) line) := by
  induction lines generalizing number region with
  | nil => exact ⟨[], rfl, rfl, by simp⟩
  | cons first lines ih =>
    obtain ⟨groups, hflatten, hlength, hgroups⟩ := ih (number + 1) (region.next first)
    refine ⟨(if region.excludes first then [] else findingsOn rules file number first) :: groups,
      ?_, ?_, ?_⟩
    · rw [findingsFrom, hflatten, List.flatten_cons]
    · rw [List.length_cons, hlength, List.length_cons]
    · intro i line hline
      cases i with
      | zero =>
        obtain rfl : first = line := Option.some.inj hline
        rfl
      | succ i =>
        rw [List.getElem?_cons_succ, hgroups i line hline, List.take_succ_cons, List.foldl_cons,
          Nat.add_right_comm, Nat.add_assoc number i 1]

section Membership

variable {rules : List Rule} {line : Text} {f : Finding}

theorem mem_findingsOn :
    f ∈ findingsOn rules file number line ↔ Text.isAllBlank line = false ∧
      ∃ r ∈ rules, r.looksAt line = true ∧ r.findingOn? file number line = some f := by
  rw [findingsOn]
  cases Text.isAllBlank line with
  | true => simp
  | false =>
    simp only [Bool.false_eq_true, if_false, List.mem_filterMap, true_and]
    refine exists_congr fun r => and_congr_right fun _ => ?_
    cases r.looksAt line <;> simp

theorem line_of_mem_findingsOn (h : f ∈ findingsOn rules file number line) : f.line = number := by
  obtain ⟨-, r, -, -, hf⟩ := mem_findingsOn.mp h
  exact (Rule.shows_of_findingOn? hf).line_eq

/-- **A scan finds what is to be found on the lines that are not excluded.** -/
theorem mem_findingsFrom {region : Region} {lines : List Text} :
    f ∈ findingsFrom rules file number region lines ↔ ∃ i line, lines[i]? = some line ∧
      ((lines.take i).foldl Region.next region).excludes line = false ∧
      f ∈ findingsOn rules file (number + i) line := by
  obtain ⟨groups, hflatten, hlength, hgroups⟩ :=
    findingsFrom_eq_flatten rules file number region lines
  rw [hflatten, List.mem_flatten]
  constructor
  · rintro ⟨group, hgroup, hf⟩
    obtain ⟨i, hi, rfl⟩ := List.mem_iff_getElem.mp hgroup
    have hline := List.getElem?_eq_getElem (hlength ▸ hi : i < lines.length)
    have hfound := hgroups i _ hline
    rw [List.getElem?_eq_getElem hi, Option.some.injEq] at hfound
    rw [hfound] at hf
    refine ⟨i, _, hline, ?_⟩
    split at hf
    · cases hf
    · rename_i hexcluded
      exact ⟨by simpa using hexcluded, hf⟩
  · rintro ⟨i, line, hline, hexcluded, hf⟩
    refine ⟨_, List.mem_of_getElem? (hgroups i line hline), ?_⟩
    rw [hexcluded]
    exact hf

end Membership

namespace RuleSet

/-- **The findings that the rules give on a line** of a script: none if it is excluded or
blank, or else one for each rule that reports it. -/
def Gives (s : RuleSet) (file : Path) (lines : List Text) (region : Region) (number : Nat)
    (line : Text) (group : List Finding) : Prop :=
  if region.excludes line = true ∨ Text.trim line = [] then group = []
  else List.Forall₂ (fun r f => Finding.Shows f r file number line)
    (s.rules.filter fun r => r.Reports lines line) group

theorem gives_findingsOn (s : RuleSet) (region : Region) (line : Text) :
    s.Gives file lines region number line
      (if region.excludes line then [] else findingsOn (s.active lines) file number line) := by
  rw [Gives]
  cases hexcluded : region.excludes line with
  | true => simp
  | false =>
    by_cases hblank : Text.trim line = []
    · simp [hblank, findingsOn, Text.trim_eq_nil_iff.mp hblank]
    · rw [if_neg (by simpa using hblank), if_neg Bool.false_ne_true]
      exact forall₂_findingsOn s.rules hblank

end RuleSet

/-! ### Lines that fail to be read -/

variable {ε : Type}

theorem readAll_map_ok (file : Path) (number : Nat) (lines : List Text) :
    (readAll file number (lines.map .ok) : Except (ScanError ε) (List Text)) = .ok lines := by
  induction lines generalizing number with
  | nil => rfl
  | cons line lines ih =>
    rw [List.map_cons, readAll, ih]
    rfl

theorem readAll_of_error {reads : List (Except ε Text)} {n : Nat} {cause : ε}
    (hn : reads[n]? = some (.error cause))
    (hbefore : ∀ m < n, ∃ line, reads[m]? = some (.ok line)) :
    readAll file number reads = .error ⟨file, number + n, cause⟩ := by
  induction reads generalizing number n with
  | nil => simp at hn
  | cons first reads ih =>
    cases n with
    | zero =>
      obtain rfl : first = .error cause := Option.some.inj hn
      rfl
    | succ n =>
      obtain ⟨line, hline⟩ := hbefore 0 n.succ_pos
      obtain rfl : first = .ok line := Option.some.inj hline
      have hrest : readAll file (number + 1) reads = .error ⟨file, number + 1 + n, cause⟩ :=
        ih hn fun m hm => hbefore (m + 1) (Nat.succ_lt_succ hm)
      rw [readAll, hrest, Nat.add_right_comm, Nat.add_assoc]
      rfl

/-- **What a scan finds.** If a line cannot be read, the scan fails with the number of the
first such line; if all lines are read, it finds what the rules give on each of them, in
the order of lines. -/
theorem RuleSet.scanReads_spec (s : RuleSet) (file : Path) (reads : List (Except ε Text)) :
    (∀ n cause, reads[n]? = some (.error cause) →
        (∀ m < n, ∃ line, reads[m]? = some (.ok line)) →
        s.scanReads file reads = .error ⟨file, n + 1, cause⟩) ∧
      ∀ lines : List Text, reads = lines.map .ok →
        ∃ groups : List (List Finding), s.scanReads file reads = .ok groups.flatten ∧
          groups.length = lines.length ∧
          ∀ i line, lines[i]? = some line → ∃ group, groups[i]? = some group ∧
            s.Gives file lines ((lines.take i).foldl Region.next .outside) (i + 1) line group := by
  constructor
  · intro n cause hn hbefore
    rw [scanReads, readAll_of_error hn hbefore, Nat.add_comm]
    rfl
  · rintro lines rfl
    obtain ⟨groups, hflatten, hlength, hgroups⟩ :=
      findingsFrom_eq_flatten (s.active lines) file 1 .outside lines
    refine ⟨groups, ?_, hlength, fun i line hline => ⟨_, hgroups i line hline, ?_⟩⟩
    · rw [scanReads, readAll_map_ok, ← hflatten]
      rfl
    · rw [Nat.add_comm]
      exact gives_findingsOn s _ line

end GnuLint
