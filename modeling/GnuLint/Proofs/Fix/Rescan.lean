import GnuLint.Proofs.Finding.Scan
import GnuLint.Proofs.Fix.Accounting
import GnuLint.Proofs.Fix.FixedLines
import GnuLint.Proofs.Rule.Catalog

/-!
# Scanning a fixed text again

A fixed text is scanned again, and one would like to see nothing if everything that was found
has been fixed. This is not so in general: a rule shows the first occurrence on a line, the
rewrite of calls of grep rewrites one call, and so a second call is still there
(`GnuLint.Catalog.scanText_fixText_secondCall`).

What is true is that a second scan has nothing to say about the rest of the script
(`GnuLint.Catalog.scanText_fixText`). It finds what there is to be found on the lines that were
fixed, each looked at by itself, and nothing else; so nothing is left exactly if nothing is
left on these lines. Three things have to be seen for this.

* The lines are the same otherwise, and none is joined to another or split in two.
* **No line changes its region.** A line that is fixed was not excluded, so it opened no
  here-document, and it is asked to open none now. This has to be asked: where a backslash
  before a less-than sign is dropped in a bracket expression, two of them may come together.
* **The same rules apply.** Only the first line could change which ones do. But an interpreter
  line is found by a rule that is left to a human, so there was none; and none can come
  about, since a line that is fixed is no comment and does not become one.
-/

namespace GnuLint

open Text (FitsIn)

/-! ### Regions -/

namespace Region

variable {region : Region} {new old : Text}

/-- What comes after a line that is not excluded does not depend on it, as long as nothing is
opened. -/
theorem next_eq_of_opens?_eq_none (hold : region.excludes old = false) (hnew : opens? new = none) :
    region.next new = region.next old := by
  cases region with
  | outside =>
    have hopens : opens? old = none := by simpa [excludes] using hold
    rw [next, next, hnew, hopens]
  | inside delimiter => cases hold

/-- **Lines stand where the lines in their place stood**, if each of them is the same or opens
nothing in the place of a line that was not excluded. -/
theorem foldl_next_take_eq {news olds : List Text} (hlength : news.length = olds.length)
    (h : ∀ i new old, news[i]? = some new → olds[i]? = some old → new = old ∨
      (((olds.take i).foldl next region).excludes old = false ∧ opens? new = none)) (i : Nat) :
    (news.take i).foldl next region = (olds.take i).foldl next region := by
  induction i with
  | zero => rfl
  | succ i ih =>
    rw [List.take_add_one, List.take_add_one, List.foldl_append, List.foldl_append, ih]
    rcases getElem?_cases hlength i with ⟨hnew, hold⟩ | ⟨new, old, hnew, hold⟩
    · rw [hnew, hold]
    · rw [hnew, hold]
      rcases h i new old hnew hold with rfl | ⟨hexcluded, hopens⟩
      · rfl
      · exact next_eq_of_opens?_eq_none hexcluded hopens

end Region

/-! ### Comments -/

theorem isComment_of_head? {line : Text} (h : line.head? = some '#') : isComment line = true := by
  cases line with
  | nil => cases h
  | cons c line =>
    obtain rfl : c = '#' := Option.some.inj h
    rfl

/-! ### Lines that were fixed -/

/-- **The lines that were fixed**, as they are in the text to write, with their numbers. -/
def FixResult.fixedLines (result : FixResult) : List (Nat × Text) :=
  result.applied.filterMap fun a => (Text.lines result.content)[a.line - 1]?.map (a.line, ·)

theorem FixResult.mem_fixedLines {result : FixResult} {number : Nat} {line : Text} :
    (number, line) ∈ result.fixedLines ↔ ∃ a ∈ result.applied, a.line = number ∧
      (Text.lines result.content)[number - 1]? = some line := by
  rw [fixedLines, List.mem_filterMap]
  constructor
  · rintro ⟨a, ha, hline⟩
    obtain ⟨line', hline', heq⟩ := Option.map_eq_some_iff.mp hline
    obtain ⟨rfl, rfl⟩ := Prod.mk.inj heq
    exact ⟨a, ha, rfl, hline'⟩
  · rintro ⟨a, ha, rfl, hline⟩
    exact ⟨a, ha, by rw [hline]; rfl⟩

/-! ### Everything fixed -/

namespace Catalog

/-- **All that the catalogue finds in a text was fixed**, and the lines that were fixed open
no here-document. -/
structure Resolves (result : FixResult) (file : Path) (text : Text) : Prop where
  relines : result.Relines text
  accounted : Accounted (rules.scanText file text) result.applied []
  opens_none {number : Nat} {line : Text} : (number, line) ∈ result.fixedLines →
    opens? line = none

namespace Resolves

variable {result : FixResult} {file : Path} {text : Text} {i : Nat} {new old : Text}
  (h : Resolves result file text)

include h

/-- What is found on a line is found by a rule that runs without a human, and the line is
fixed. -/
theorem of_mem_findingsOn {f : Finding} (hold : (Text.lines text)[i]? = some old)
    (hexcluded : (((Text.lines text).take i).foldl Region.next .outside).excludes old = false)
    (hf : f ∈ findingsOn (rules.active (Text.lines text)) file (i + 1) old) :
    f.rule.strategy.isAutomatic = true ∧ ∃ a ∈ result.applied, a.line = i + 1 := by
  have hmem : f ∈ rules.scanText file text := by
    refine mem_findingsFrom.mpr ⟨i, old, hold, hexcluded, ?_⟩
    rwa [Nat.add_comm]
  obtain ⟨a, ha, hrecords⟩ := h.accounted.exists_applied hmem
  exact ⟨hrecords.2, a, ha, hrecords.line_eq.trans (line_of_mem_findingsOn hf)⟩

/-- A line that was fixed was not excluded, and an automatic rule found something on it. -/
theorem exists_mem_findingsOn {a : Applied} (ha : a ∈ result.applied) :
    ∃ i old f, a.line = i + 1 ∧ (Text.lines text)[i]? = some old ∧
      (((Text.lines text).take i).foldl Region.next .outside).excludes old = false ∧
      f ∈ findingsOn (rules.active (Text.lines text)) file (i + 1) old ∧
      f.rule.strategy.isAutomatic = true := by
  obtain ⟨f, hf, hrecords⟩ := h.accounted.exists_finding ha
  obtain ⟨i, old, hold, hexcluded, hfound⟩ := mem_findingsFrom.mp hf
  rw [Nat.add_comm] at hfound
  have hline : a.line = i + 1 := hrecords.line_eq.trans (line_of_mem_findingsOn hfound)
  exact ⟨i, old, f, hline, hold, hexcluded, hfound, hrecords.2⟩

/-- **A line is the same, or it was fixed** and stands outside of here-documents. -/
theorem same_or_fixed (hnew : (Text.lines result.content)[i]? = some new)
    (hold : (Text.lines text)[i]? = some old) :
    (new = old ∧ ∀ a ∈ result.applied, a.line ≠ i + 1) ∨
      (((Text.lines text).take i).foldl Region.next .outside).excludes old = false ∧
        (i + 1, new) ∈ result.fixedLines := by
  by_cases hfixed : ∃ a ∈ result.applied, a.line = i + 1
  · obtain ⟨a, ha, hline⟩ := hfixed
    obtain ⟨j, old', -, hj, hold', hexcluded, -⟩ := h.exists_mem_findingsOn ha
    obtain rfl : j = i := by omega
    obtain rfl : old' = old := Option.some.inj (hold'.symm.trans hold)
    exact Or.inr ⟨hexcluded, FixResult.mem_fixedLines.mpr ⟨a, ha, hline, hnew⟩⟩
  · have hnone : ∀ a ∈ result.applied, a.line ≠ i + 1 := fun a ha he => hfixed ⟨a, ha, he⟩
    rw [h.relines.same hnone, hold] at hnew
    exact Or.inl ⟨(Option.some.inj hnew).symm, hnone⟩

/-- **No line changes its region.** -/
theorem region_eq (i : Nat) :
    ((Text.lines result.content).take i).foldl Region.next .outside =
      ((Text.lines text).take i).foldl Region.next .outside := by
  refine Region.foldl_next_take_eq h.relines.length_eq (fun j new old hnew hold => ?_) i
  rcases h.same_or_fixed hnew hold with ⟨rfl, -⟩ | ⟨hexcluded, hfixed⟩
  · exact Or.inl rfl
  · exact Or.inr ⟨hexcluded, h.opens_none hfixed⟩

/-! #### The rules that apply -/

/-- The first line is not the interpreter line that some rules ask for: it would have been
found, and left to a human. -/
theorem isMatch_old {p : Pattern} (hp : p.source = binBashShebang.pattern)
    (hold : (Text.lines text)[0]? = some old) : p.isMatch old = false := by
  refine Bool.eq_false_iff.mpr fun hmatch => ?_
  have hhead := head?_of_isMatch hp hmatch
  have hcomment := isComment_of_head? hhead
  obtain ⟨r, hr, hsource, hstrategy, hnegative, hshebang⟩ := exists_shebang
  obtain rfl : r.pattern = p := Pattern.ext_source (hsource.trans hp.symm)
  have hfound : (r.findingOn? file 1 old).isSome = true := by
    rw [Rule.isSome_findingOn?, hnegative]
    exact ⟨hmatch, rfl⟩
  obtain ⟨f, hf⟩ := Option.isSome_iff_exists.mp hfound
  have hmem : f ∈ findingsOn (rules.active (Text.lines text)) file 1 old := by
    refine mem_findingsOn.mpr ⟨?_, r, List.mem_filter.mpr ⟨hr, ?_⟩, ?_, hf⟩
    · cases old with
      | nil => cases hhead
      | cons c old =>
        obtain rfl : c = '#' := Option.some.inj hhead
        rfl
    · simp only [Rule.isActiveFor, hshebang]
    · have htargets : r.targetsComments = true := by
        rw [Rule.targetsComments, hsource]
        decide +kernel
      rw [Rule.looksAt, htargets, Bool.or_true]
  have hexcluded : Region.outside.excludes old = false := by
    simp [Region.excludes, opens?, hcomment]
  obtain ⟨hauto, -⟩ := h.of_mem_findingsOn hold hexcluded hmem
  rw [(Rule.shows_of_findingOn? hf).rule_eq, hstrategy] at hauto
  cases hauto

/-- No fix makes such an interpreter line of the first line, which would have to begin as a
comment; but comments are not fixed. -/
theorem isMatch_new {p : Pattern} (hp : p.source = binBashShebang.pattern)
    (hnew : (Text.lines result.content)[0]? = some new)
    (hold : (Text.lines text)[0]? = some old) : p.isMatch new = false := by
  refine Bool.eq_false_iff.mpr fun hmatch => ?_
  have hcomment := isComment_of_head? ((h.relines.fits hnew hold).head (head?_of_isMatch hp hmatch))
  rcases h.same_or_fixed hnew hold with ⟨rfl, -⟩ | ⟨-, hfixed⟩
  · rw [h.isMatch_old hp hold] at hmatch
    cases hmatch
  · obtain ⟨a, ha, hline, -⟩ := FixResult.mem_fixedLines.mp hfixed
    obtain ⟨i, old', f, hi, hold', -, hf, hauto⟩ := h.exists_mem_findingsOn ha
    obtain rfl : i = 0 := by omega
    obtain rfl : old' = old := Option.some.inj (hold'.symm.trans hold)
    obtain ⟨-, r, hr, hlooks, hfound⟩ := mem_findingsOn.mp hf
    rw [(Rule.shows_of_findingOn? hfound).rule_eq] at hauto
    rw [Rule.looksAt, hcomment, targetsComments_of_isAutomatic (List.mem_filter.mp hr).1 hauto]
      at hlooks
    cases hlooks

/-- **The same rules apply** to the fixed text. -/
theorem active_eq : rules.active (Text.lines result.content) = rules.active (Text.lines text) := by
  refine List.filter_congr fun r hr => ?_
  rw [List.head?_eq_getElem?, List.head?_eq_getElem?]
  cases hp : r.shebangMatch with
  | none => simp only [Rule.isActiveFor, hp]
  | some p =>
    have hsource := source_of_shebangMatch hr hp
    rcases getElem?_cases h.relines.length_eq 0 with ⟨hnew, hold⟩ | ⟨new, old, hnew, hold⟩
    · rw [hnew, hold]
    · rw [hnew, hold]
      simp only [Rule.isActiveFor, hp]
      rw [h.isMatch_new hsource hnew hold, h.isMatch_old hsource hold]

/-! #### The second scan -/

/-- **A second scan finds what there is to be found on the lines that were fixed.** -/
theorem mem_scanText_iff {f : Finding} :
    f ∈ rules.scanText file result.content ↔ ∃ l ∈ result.fixedLines,
      f ∈ findingsOn (rules.active (Text.lines text)) file l.1 l.2 := by
  rw [RuleSet.scanText, RuleSet.scanLines, h.active_eq, mem_findingsFrom]
  constructor
  · rintro ⟨i, new, hnew, hexcluded, hf⟩
    rw [h.region_eq] at hexcluded
    rw [Nat.add_comm] at hf
    rcases getElem?_cases h.relines.length_eq i with ⟨hnone, -⟩ | ⟨_, old, -, hold⟩
    · rw [hnone] at hnew
      cases hnew
    rcases h.same_or_fixed hnew hold with ⟨rfl, hnone⟩ | ⟨-, hfixed⟩
    · -- the line would have been fixed
      obtain ⟨-, a, ha, hline⟩ := h.of_mem_findingsOn hold hexcluded hf
      exact absurd hline (hnone a ha)
    · exact ⟨_, hfixed, hf⟩
  · rintro ⟨⟨number, new⟩, hfixed, hf⟩
    obtain ⟨a, ha, rfl, hnew⟩ := FixResult.mem_fixedLines.mp hfixed
    obtain ⟨i, old, -, hline, hold, hexcluded, -⟩ := h.exists_mem_findingsOn ha
    rw [hline, Nat.add_sub_cancel] at hnew
    refine ⟨i, new, hnew, ?_, ?_⟩
    · -- where the line stands, only an opener would exclude it
      rw [h.region_eq]
      cases hregion : ((Text.lines text).take i).foldl Region.next .outside with
      | outside =>
        rw [Region.excludes, h.opens_none hfixed]
        rfl
      | inside delimiter =>
        rw [hregion] at hexcluded
        cases hexcluded
    · rwa [hline, Nat.add_comm] at hf

end Resolves

theorem keepsLines_of_mem {r : Rule} (hr : r ∈ rules.rules) : r.KeepsLines :=
  fun hreplace _ ht => isPlain_of_template hr hreplace ht

theorem rule_mem_of_mem_scanText {file : Path} {text : Text} {f : Finding}
    (hf : f ∈ rules.scanText file text) : f.rule ∈ rules.rules := by
  obtain ⟨i, line, -, -, hf⟩ := mem_findingsFrom.mp hf
  obtain ⟨-, r, hr, -, hfound⟩ := mem_findingsOn.mp hf
  rw [(Rule.shows_of_findingOn? hfound).rule_eq]
  exact (List.mem_filter.mp hr).1

/-- **What is left when everything was fixed.** If no finding of the catalogue was left alone,
and no line that was fixed opens a here-document, then a second scan finds what there is to be
found on the lines that were fixed, by the rules of the first scan, and nothing else. So it
finds nothing exactly if nothing is to be found on these lines. This is true whatever the
validator says; if it rejects the fixed text, the lines are what they were. -/
theorem scanText_fixText {validator : Validator} {file path : Path} {text : Text}
    {result : FixResult}
    (h : fixText .builtin validator path text (rules.scanText file text) = .ok result)
    (hresolved : result.unresolved = [])
    (hopens : ∀ l ∈ result.fixedLines, opens? l.2 = none) :
    (∀ f, f ∈ rules.scanText file result.content ↔ ∃ l ∈ result.fixedLines,
        f ∈ findingsOn (rules.active (Text.lines text)) file l.1 l.2) ∧
      (rules.scanText file result.content = [] ↔ ∀ l ∈ result.fixedLines,
        findingsOn (rules.active (Text.lines text)) file l.1 l.2 = []) := by
  have hrelines : result.Relines text := FixResult.relines_of_fixText Registry.keepsLines_builtin
    (fun f hf => keepsLines_of_mem (rule_mem_of_mem_scanText hf)) h
  have haccounted := accounted_fixText h
  rw [hresolved] at haccounted
  have hresolves : Resolves result file text := ⟨hrelines, haccounted, fun hl => hopens _ hl⟩
  have hmem := fun f => hresolves.mem_scanText_iff (f := f)
  refine ⟨hmem, ?_⟩
  simp only [List.eq_nil_iff_forall_not_mem, hmem]
  constructor
  · intro hnone l hl f hf
    exact hnone f ⟨l, hl, hf⟩
  · rintro hnone f ⟨l, hl, hf⟩
    exact hnone l hl f hf

/-- A script in which two lines are fixed. -/
def twoLines : Text := "sed -r 's/a/b/' f\ngrep -P '\\d+' f\n".toList

/-- What fixing it gives. -/
def fixedTwoLines : FixResult where
  path := .ofString "script.sh"
  content := "sed -E 's/a/b/' f\ngrep -E '[0-9]+' f\n".toList
  applied := [
    ⟨1, 1, "sed-extended-r", "sed -r 's/a/b/' f".toList, "sed -E 's/a/b/' f".toList⟩,
    ⟨2, 1, "grep-perl-regex", "grep -P '\\d+' f".toList, "grep -E '[0-9]+' f".toList⟩]
  unresolved := []
  candidate := some "sed -E 's/a/b/' f\ngrep -E '[0-9]+' f\n".toList
  rejection := none

/-- Nothing is found on the two lines now, so nothing is found at all. -/
theorem scanText_fixText_twoLines :
    fixText .builtin (fun _ => .ok ()) (.ofString "script.sh") twoLines
        (rules.scanText (.ofString "script.sh") twoLines) = .ok fixedTwoLines ∧
      fixedTwoLines.unresolved = [] ∧ (∀ l ∈ fixedTwoLines.fixedLines, opens? l.2 = none) ∧
      rules.scanText (.ofString "script.sh") fixedTwoLines.content = [] := by
  have hopens : ∀ l ∈ fixedTwoLines.fixedLines, opens? l.2 = none := by decide +kernel
  have h : fixText .builtin (fun _ => .ok ()) (.ofString "script.sh") twoLines
        (rules.scanText (.ofString "script.sh") twoLines) = .ok fixedTwoLines ∧
      ∀ l ∈ fixedTwoLines.fixedLines,
        findingsOn (rules.active (Text.lines twoLines)) (.ofString "script.sh") l.1 l.2 = [] := by
    decide +kernel
  exact ⟨h.1, rfl, hopens, (scanText_fixText h.1 rfl hopens).2.mpr h.2⟩

/-- A script with two calls of grep on one line. -/
def twoCalls : Text := "grep -P 'a' x; grep -P 'b' y\n".toList

/-- **Not everything is gone when everything was fixed**: the rule shows the first call only,
and only that one is rewritten. -/
theorem scanText_fixText_secondCall : ∃ result : FixResult,
    fixText .builtin (fun _ => .ok ()) (.ofString "script.sh") twoCalls
        (rules.scanText (.ofString "script.sh") twoCalls) = .ok result ∧
      result.unresolved = [] ∧ rules.scanText (.ofString "script.sh") result.content ≠ [] := by
  refine ⟨⟨.ofString "script.sh", "grep -E 'a' x; grep -P 'b' y\n".toList,
    [⟨1, 1, "grep-perl-regex", "grep -P 'a' x; grep -P 'b' y".toList,
      "grep -E 'a' x; grep -P 'b' y".toList⟩], [],
    some "grep -E 'a' x; grep -P 'b' y\n".toList, none⟩, ?_⟩
  decide +kernel

end Catalog

end GnuLint
