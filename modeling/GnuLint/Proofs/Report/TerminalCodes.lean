import GnuLint.Proofs.Except
import GnuLint.Proofs.Finding.Grouping
import GnuLint.Report.Listing

/-!
# Colour adds codes and nothing else

A terminal code begins with an escape and ends with the letter `m`, and only parameters stand
between the two. Taking the codes out of a text (`GnuLint.Report.withoutCodes`) therefore leaves
alone what holds no escape, wherever in the text it stands, and undoes what a style adds to such
a text (`GnuLint.Report.withoutCodes_render`). So if no text that a finding shows holds an escape,
the report with colour is the one without, up to codes
(`GnuLint.Report.withoutCodes_listing`).
-/

namespace GnuLint.Report

/-- The character that terminal codes begin with. -/
abbrev escape : Char := '\x1b'

/-! ### Taking codes out of a text -/

/-- Whether a character can stand among the parameters of a code: digits, semicolons and some
other signs. -/
def isParameter (c : Char) : Bool := '0'.toNat ≤ c.toNat && c.toNat ≤ '?'.toNat

/-- What follows the code that a text begins with, if it begins with one. -/
def afterCode? : Text → Option Text
  | '\x1b' :: '[' :: s =>
    match s.dropWhile isParameter with
    | 'm' :: rest => some rest
    | _ => none
  | _ => none

theorem length_afterCode?_lt {s rest : Text} (h : afterCode? s = some rest) :
    rest.length < s.length := by
  unfold afterCode? at h
  split at h
  · rename_i s
    split at h
    · rename_i rest' hdrop
      have hsuffix := List.dropWhile_suffix isParameter (l := s)
      rw [hdrop, Option.some.inj h] at hsuffix
      have hle := hsuffix.length_le
      simp only [List.length_cons] at hle ⊢
      omega
    · cases h
  · cases h

/-- **A text without the codes in it.** -/
def withoutCodes : Text → Text
  | [] => []
  | c :: s =>
    match _ : afterCode? (c :: s) with
    | some rest => withoutCodes rest
    | none => c :: withoutCodes s
  termination_by s => s.length
  decreasing_by
    · exact length_afterCode?_lt ‹_›
    · exact Nat.lt_succ_self s.length

theorem withoutCodes_of_afterCode? {s rest : Text} (h : afterCode? s = some rest) :
    withoutCodes s = withoutCodes rest := by
  cases s with
  | nil => cases h
  | cons c s =>
    rw [withoutCodes]
    split <;> simp_all

theorem withoutCodes_cons_of_ne {c : Char} (h : c ≠ escape) (s : Text) :
    withoutCodes (c :: s) = c :: withoutCodes s := by
  have hnone : afterCode? (c :: s) = none := by
    unfold afterCode?
    split
    · rename_i hs
      exact absurd (List.cons.inj hs).1 h
    · rfl
  rw [withoutCodes]
  split <;> simp_all

/-- A text without an escape stays as it is. -/
theorem withoutCodes_append {s : Text} (h : escape ∉ s) (t : Text) :
    withoutCodes (s ++ t) = s ++ withoutCodes t := by
  induction s with
  | nil => rfl
  | cons c s ih =>
    rw [List.mem_cons, not_or] at h
    rw [List.cons_append, withoutCodes_cons_of_ne (Ne.symm h.1), ih h.2, List.cons_append]

/-- A code is taken out. -/
theorem withoutCodes_code {parameters : String} (h : parameters.toList.all isParameter = true)
    (t : Text) : withoutCodes (Span.code parameters ++ t) = withoutCodes t := by
  refine withoutCodes_of_afterCode? ?_
  have hdrop : (parameters.toList ++ ['m'] ++ t).dropWhile isParameter = 'm' :: t := by
    rw [List.append_assoc, List.dropWhile_append_of_pos (List.all_eq_true.mp h)]
    rfl
  rw [Span.code, List.cons_append, List.cons_append, List.cons_append, List.cons_append]
  simp only [afterCode?, hdrop]

/-! ### Styled text -/

/-- **Some lines show no escape.** -/
def ShowNoEscape (lines : List StyledLine) : Prop :=
  ∀ line ∈ lines, ∀ span ∈ line, escape ∉ span.text

theorem render_false (span : Span) : span.render false = span.text := rfl

theorem isParameter_of_parameters? {style : Style} {parameters : String}
    (h : style.parameters? = some parameters) : parameters.toList.all isParameter = true := by
  cases style with
  | plain => cases h
  | _ =>
    obtain rfl := Option.some.inj h
    decide

/-- There is nothing to repeat in a text without an escape. -/
theorem restyleWithin_eq (style : Text) (n : Nat) {s : Text} (h : escape ∉ s) :
    Span.restyleWithin style n s = s := by
  induction n generalizing s with
  | zero => rfl
  | succ n ih =>
    cases s with
    | nil => rfl
    | cons c s =>
      -- a reset begins with an escape
      have hnone : Text.stripStart? (c :: s) Span.reset = none := by
        refine Option.eq_none_iff_forall_ne_some.mpr fun rest hrest => h ?_
        rw [Text.stripStart?_eq_some_iff.mp hrest]
        exact List.mem_append_left rest List.mem_cons_self
      rw [Span.restyleWithin, hnone]
      exact congrArg (c :: ·) (ih fun hs => h (List.mem_cons_of_mem c hs))

/-- **Without its codes, a text in a style is the text.** -/
theorem withoutCodes_render {span : Span} (h : escape ∉ span.text) (t : Text) :
    withoutCodes (span.render true ++ t) = span.text ++ withoutCodes t := by
  cases hparameters : span.style.parameters? with
  | none =>
    have hrender : span.render true = span.text := by
      simp only [Span.render, hparameters]
    rw [hrender, withoutCodes_append h]
  | some parameters =>
    have hrender : span.render true =
        Span.code parameters ++ (Span.restyle (Span.code parameters) span.text ++ Span.reset) := by
      simp only [Span.render, hparameters]
    -- from left to right: the code of the style goes, the text stays, the reset goes
    rw [hrender, Span.restyle, restyleWithin_eq _ _ h, List.append_assoc, List.append_assoc,
      withoutCodes_code (isParameter_of_parameters? hparameters), withoutCodes_append h,
      Span.reset, withoutCodes_code (by decide)]

theorem withoutCodes_line {line : StyledLine} (h : ∀ span ∈ line, escape ∉ span.text) (t : Text) :
    withoutCodes (line.flatMap (Span.render true) ++ t) =
      line.flatMap (Span.render false) ++ withoutCodes t := by
  induction line with
  | nil => rfl
  | cons span line ih =>
    obtain ⟨hspan, hline⟩ := List.forall_mem_cons.mp h
    rw [List.flatMap_cons, List.flatMap_cons, List.append_assoc, withoutCodes_render hspan,
      ih hline, List.append_assoc, render_false]

/-- **Without their codes, lines with colour are the lines without.** -/
theorem withoutCodes_renderLines {lines : List StyledLine} (h : ShowNoEscape lines) :
    withoutCodes (renderLines true lines) = renderLines false lines := by
  induction lines with
  | nil => exact withoutCodes.eq_1
  | cons line lines ih =>
    obtain ⟨hline, hlines⟩ := List.forall_mem_cons.mp h
    have hnewline : withoutCodes ('\n' :: renderLines true lines) =
        '\n' :: withoutCodes (renderLines true lines) :=
      withoutCodes_cons_of_ne (by decide) _
    rw [renderLines, renderLines, List.flatMap_cons, List.flatMap_cons, List.append_assoc,
      List.append_assoc, withoutCodes_line hline]
    exact congrArg _ (hnewline.trans (congrArg _ (ih hlines)))

/-! ### What a report shows -/

/-- **A finding shows no escape**: no text that a report shows of it holds one. -/
structure ShowsNoEscape (f : Finding) : Prop where
  file : escape ∉ f.file.spelling
  id : escape ∉ f.rule.id.toList
  name : escape ∉ f.rule.name.toList
  template : ∀ t ∈ f.rule.template, escape ∉ t.toList
  rationale : ∀ t ∈ f.rule.rationale, escape ∉ t.toList
  content : escape ∉ f.content

theorem escape_notMem_toDigits (n : Nat) : escape ∉ Nat.toDigits 10 n := fun h =>
  absurd (Nat.isDigit_of_mem_toDigits (by decide) (by decide) h) (by decide)

/-- **The line of a finding is shown whole**, wherever what was found in it is said to be. -/
theorem text_highlight (f : Finding) : (highlight f).flatMap Span.text = f.content := by
  have hplain : List.flatMap Span.text [Span.plain f.content] = f.content := List.append_nil _
  rw [highlight]
  cases hstart : Text.cutAt? f.content f.offset with
  | none => exact hplain
  | some start =>
    cases hfound : Text.cutAt? start.2 (Text.byteLength f.matched) with
    | none => simpa [hfound] using hplain
    | some found =>
      -- the three parts of the line make it up
      have hcontent := (Text.eq_append_of_cutAt? hstart).1
      have htail := (Text.eq_append_of_cutAt? hfound).1
      simp only [hfound, Option.bind_eq_bind, Option.bind_some, Option.pure_def]
      split
      · exact hplain
      · rw [hcontent, htail]
        simp [Span.plain]

theorem showNoEscape_append {a b : List StyledLine} :
    ShowNoEscape (a ++ b) ↔ ShowNoEscape a ∧ ShowNoEscape b :=
  List.forall_mem_append

theorem showNoEscape_cons {line : StyledLine} {lines : List StyledLine} :
    ShowNoEscape (line :: lines) ↔ (∀ span ∈ line, escape ∉ span.text) ∧ ShowNoEscape lines :=
  List.forall_mem_cons

theorem escape_notMem_highlight {f : Finding} (h : escape ∉ f.content) :
    ∀ span ∈ highlight f, escape ∉ span.text := by
  intro span hspan hescape
  rw [← text_highlight f] at h
  exact h (List.mem_flatMap.mpr ⟨span, hspan, hescape⟩)

theorem showNoEscape_findingLines {f : Finding} (h : ShowsNoEscape f) (fixable : Bool) :
    ShowNoEscape (findingLines f fixable) := by
  have hcapitals : escape ∉ capitals f.severity := by
    cases f.severity <;> decide
  have hlabel : escape ∉ (if fixable = true then "Fix: " else "Suggest: ").toList := by
    cases fixable <;> decide
  have hfix : ShowNoEscape (f.rule.template.toList.map fun template =>
      [.ofString "    ", ⟨.dimmed, "└─ ".toList⟩,
        .ofString ((if fixable = true then "Fix: " else "Suggest: ") ++ template)]) := by
    refine List.forall_mem_map.mpr fun template htemplate => ?_
    have hshown := h.template template (Option.mem_toList.mp htemplate)
    simp [escape, Span.ofString, Span.plain, hlabel, hshown]
  have hreason : ShowNoEscape (f.rule.rationale.toList.map fun rationale =>
      [.ofString "       Why: ", ⟨.yellow, rationale.toList⟩]) := by
    refine List.forall_mem_map.mpr fun rationale hrationale => ?_
    have hshown := h.rationale rationale (Option.mem_toList.mp hrationale)
    simp [escape, Span.ofString, Span.plain, hshown]
  rw [findingLines, showNoEscape_append, showNoEscape_append]
  refine ⟨⟨?_, hfix⟩, ?_⟩
  · simp only [showNoEscape_cons]
    refine ⟨?_, ?_, ?_, ?_⟩
    · simp [escape, Span.ofString, Span.plain, hcapitals, h.id, escape_notMem_toDigits]
    · simp [escape, Span.ofString, Span.plain, h.name]
    · have hline := escape_notMem_highlight h.content
      simpa [escape, Span.ofString, Span.plain] using hline
    · exact List.forall_mem_nil _
  · cases fixable with
    | true => exact List.forall_mem_nil _
    | false => exact hreason

theorem showNoEscape_groupLines {registry : Registry} {file : Path} {fs : List Finding}
    {lines : List StyledLine} (hfile : escape ∉ file.spelling) (hfs : ∀ f ∈ fs, ShowsNoEscape f)
    (h : groupLines registry file fs = .ok lines) : ShowNoEscape lines := by
  obtain ⟨parts, hparts, hlines⟩ := bind_eq_ok_iff.mp h
  obtain rfl := Except.ok.inj hlines
  have hshown : ∀ part ∈ parts, ShowNoEscape part := by
    refine forall_mem_of_mapM hparts fun f hf part hpart => ?_
    obtain ⟨fixable, -, rfl⟩ := map_eq_ok_iff.mp hpart
    exact showNoEscape_findingLines (hfs f hf) fixable
  simp only [showNoEscape_cons]
  refine ⟨List.forall_mem_nil _, List.forall_mem_singleton.mpr hfile, ?_⟩
  exact List.forall_mem_flatten.mpr hshown

theorem forall_mem_intersperse {α : Type} {p : α → Prop} {sep : α} (hsep : p sep) {l : List α}
    (h : ∀ a ∈ l, p a) : ∀ a ∈ l.intersperse sep, p a := by
  induction l with
  | nil => exact h
  | cons a l ih =>
    obtain ⟨ha, hl⟩ := List.forall_mem_cons.mp h
    cases l with
    | nil => exact h
    | cons b l => exact List.forall_mem_cons.mpr ⟨ha, List.forall_mem_cons.mpr ⟨hsep, ih hl⟩⟩

theorem escape_notMem_sumLine (fs : List Finding) (files : Nat) :
    ∀ span ∈ sumLine fs files, escape ∉ span.text := by
  have hsums : ∀ span ∈ sums (Findings.counts fs), escape ∉ span.text := by
    intro span hspan
    obtain ⟨⟨n, words, style⟩, hmem, hsome⟩ := List.mem_filterMap.mp hspan
    have hwords : escape ∉ words.toList := by
      simp only [List.mem_cons, Prod.mk.injEq, List.not_mem_nil, or_false] at hmem
      obtain ⟨-, rfl, -⟩ | ⟨-, rfl, -⟩ | ⟨-, rfl, -⟩ := hmem <;> decide
    obtain ⟨-, hshown⟩ := Option.ite_none_left_eq_some.mp hsome
    obtain rfl := Option.some.inj hshown
    simp [hwords, escape_notMem_toDigits]
  have hspread : ∀ span ∈ (sums (Findings.counts fs)).intersperse (Span.ofString ", "),
      escape ∉ span.text := forall_mem_intersperse (by decide) hsums
  rw [sumLine]
  refine List.forall_mem_append.mpr ⟨List.forall_mem_cons.mpr ⟨by decide, hspread⟩, ?_⟩
  simp [escape, Span.ofString, Span.plain, escape_notMem_toDigits]

/-- **A report shows no escape** if its findings show none. -/
theorem showNoEscape_lines {registry : Registry} {fs : List Finding} {ls : List StyledLine}
    (hfs : ∀ f ∈ fs, ShowsNoEscape f) (h : lines registry fs = .ok ls) : ShowNoEscape ls := by
  rw [lines] at h
  split at h
  · obtain rfl := Except.ok.inj h
    unfold ShowNoEscape
    decide
  · obtain ⟨parts, hparts, hls⟩ := bind_eq_ok_iff.mp h
    obtain rfl := Except.ok.inj hls
    have hshown : ∀ part ∈ parts, ShowNoEscape part := by
      refine forall_mem_of_mapM hparts fun group hgroup part hpart => ?_
      -- a group has the file of one finding and holds findings, so nothing new is shown
      obtain ⟨hkept, hin⟩ := Findings.of_mem_byFile hgroup
      obtain ⟨f, hf, hfile⟩ := Findings.exists_file_eq hkept
      refine showNoEscape_groupLines (hfile ▸ (hfs f hf).file) (fun g hg => ?_) hpart
      rw [hin] at hg
      exact hfs g (List.mem_of_mem_filter hg)
    refine showNoEscape_append.mpr ⟨List.forall_mem_flatten.mpr hshown, ?_⟩
    simp only [showNoEscape_cons]
    exact ⟨List.forall_mem_nil _, escape_notMem_sumLine fs _, List.forall_mem_nil _⟩

theorem escape_notMem_renderLines {ls : List StyledLine} (h : ShowNoEscape ls) :
    escape ∉ renderLines false ls := by
  intro hescape
  obtain ⟨line, hline, hescape⟩ := List.mem_flatMap.mp hescape
  rcases List.mem_append.mp hescape with hescape | hescape
  · obtain ⟨span, hspan, hescape⟩ := List.mem_flatMap.mp hescape
    exact h line hline span hspan hescape
  · exact absurd hescape (by decide)

/-- **Without its codes, the report with colour is the report without.** The latter shows the line
of every finding as it is and holds no escape. -/
theorem withoutCodes_listing {fs : List Finding} (hfs : ∀ f ∈ fs, ShowsNoEscape f)
    (registry : Registry) :
    (listing registry true fs).map withoutCodes = listing registry false fs ∧
      (∀ text, listing registry false fs = .ok text → escape ∉ text) ∧
      ∀ f ∈ fs, (highlight f).flatMap (Span.render false) = f.content := by
  have hshown (ls : List StyledLine) (h : lines registry fs = .ok ls) : ShowNoEscape ls :=
    showNoEscape_lines hfs h
  rw [listing, listing]
  cases hlines : lines registry fs with
  | error fault => exact ⟨rfl, fun _ htext => (by cases htext), fun f _ => text_highlight f⟩
  | ok ls =>
    refine ⟨congrArg Except.ok (withoutCodes_renderLines (hshown ls hlines)), ?_,
      fun f _ => text_highlight f⟩
    intro text htext
    obtain rfl := Except.ok.inj htext
    exact escape_notMem_renderLines (hshown ls hlines)

/-- A rule against a letter that takes two bytes. -/
def accentRule : Rule :=
  (Rule.ofDefinition {
    id := "accent"
    name := "Accent"
    pattern := "é"
    template := some "e"
    rationale := some "only a human knows" }).toOption.get (by decide +kernel)

/-- A finding of this rule, said to be in some column. -/
def accentFinding (column : Nat) : Finding where
  rule := accentRule
  file := .ofString "menü.sh"
  line := 1
  column
  content := "café é".toList
  matched := "é".toList

/-- Findings where the letter is, inside of it, and past the end of the line. -/
def accentFindings : List Finding := [4, 5, 9].map accentFinding

/-- The report of these findings has codes in it, and without them it is the report without
colour. -/
theorem withoutCodes_listing_accents :
    (∀ f ∈ accentFindings, ShowsNoEscape f) ∧
      listing ∅ true accentFindings ≠ listing ∅ false accentFindings ∧
      (listing ∅ true accentFindings).map withoutCodes = listing ∅ false accentFindings := by
  have hshown : ∀ f ∈ accentFindings, ShowsNoEscape f := by
    refine List.forall_mem_map.mpr fun column _ => ?_
    exact {
      file := (by decide : escape ∉ "menü.sh".toList)
      id := (by decide +kernel : escape ∉ accentRule.id.toList)
      name := (by decide +kernel : escape ∉ accentRule.name.toList)
      template := (by decide +kernel : ∀ t ∈ accentRule.template, escape ∉ t.toList)
      rationale := (by decide +kernel : ∀ t ∈ accentRule.rationale, escape ∉ t.toList)
      content := (by decide : escape ∉ "café é".toList) }
  exact ⟨hshown, by decide +kernel, (withoutCodes_listing hshown ∅).1⟩

end GnuLint.Report
