import GnuLint.Proofs.Finding.Position
import GnuLint.Proofs.Fix.LeadingText

/-!
# Fixing findings of a fresh scan

A finding of a scan stands in the text that was scanned. While the text is fixed, its line
changes under it: other findings on the line are fixed first, perhaps many of them, some by
templates and some by rewrites, and each fix may make the line shorter. Two things hold all
the same, for the findings of a scan or for any of them.

No position that a fix works with lies outside the line as it is then, or inside a
character, so that fixing never goes wrong and gives a result
(`GnuLint.RuleSet.fixText_scanText`). This needs nothing but the order of columns, which may
be equal.

If what the findings on a line have found does not overlap, moreover, each of them is still
where it was when its turn comes, and none is left alone because it has moved
(`GnuLint.RuleSet.fixText_scanText_of_isApart`). Findings that overlap may well undo one
another.
-/

namespace GnuLint

open Text (AgreeUpTo)

/-! ### Where findings begin and end -/

namespace Finding

/-- The number of bytes up to the end of what was found. -/
def stop (f : Finding) : Nat := f.offset + Text.byteLength f.matched

/-- **Two findings do not overlap** on their line: one ends before the other one begins. -/
def IsApart (f g : Finding) : Prop := f.stop ≤ g.offset ∨ g.stop ≤ f.offset

instance (f g : Finding) : Decidable (f.IsApart g) :=
  inferInstanceAs (Decidable (f.stop ≤ g.offset ∨ g.stop ≤ f.offset))

variable {f g : Finding} {text : Text}

theorem IsApart.symm (h : f.IsApart g) : g.IsApart f := Or.symm h

theorem offset_le_stop (f : Finding) : f.offset ≤ f.stop := Nat.le_add_right _ _

/-- Of two findings that are apart, the one that does not begin later ends first. -/
theorem stop_le_of_isApart (h : f.IsApart g) (hf : f.matched ≠ []) (hle : g.offset ≤ f.offset) :
    g.stop ≤ f.offset := by
  -- if nothing were found, both could begin in one place and end in either order
  have hpos := Text.byteLength_pos hf
  rcases h with hfirst | hlater
  · rw [stop] at hfirst
    omega
  · exact hlater

theorem offset_le_of_column_le (hf : 1 ≤ f.column) (hg : 1 ≤ g.column)
    (h : g.column ≤ f.column) : g.offset ≤ f.offset := by
  rw [offset, offset, if_neg (by omega), if_neg (by omega)]
  omega

/-- The line of a finding is the piece of the text with its number. -/
theorem StandsIn.body_eq {i : Nat} {piece : Text} (h : f.StandsIn text) (hline : f.line = 1 + i)
    (hpiece : (Text.pieces text)[i]? = some piece) : Text.body piece = f.content := by
  have hcontent := h.content_eq
  have hindex : f.line - 1 = i := by omega
  rw [hindex, hpiece] at hcontent
  exact Option.some.inj hcontent

end Finding

/-! ### All lines -/

section Standing

variable {registry : Registry} {text : Text} {fs : List Finding} {reach : Finding → Nat}

/-- **Findings in order begin further and further to the left** on their line. -/
theorem Findings.pairwise_offset_inOrder (h : ∀ f ∈ fs, 1 ≤ f.column) :
    (inOrder fs).Pairwise fun f g => f.line = g.line → g.offset ≤ f.offset := by
  refine (pairwise_inOrder fs).imp_of_mem fun {f g} hf hg hbefore hline => ?_
  have hf' := h f ((perm_inOrder fs).mem_iff.mp hf)
  have hg' := h g ((perm_inOrder fs).mem_iff.mp hg)
  rcases isBefore_eq_false_iff.mp hbefore with hlt | ⟨-, hcolumn⟩
  · omega
  · exact Finding.offset_le_of_column_le hf' hg' hcolumn

/-- **Findings that are apart end before those to the right of them begin.** -/
theorem Findings.pairwise_stop_inOrder (h : ∀ f ∈ fs, 1 ≤ f.column)
    (hmatched : ∀ f ∈ fs, f.matched ≠ [])
    (hapart : fs.Pairwise fun f g => f.line = g.line → f.IsApart g) :
    (inOrder fs).Pairwise fun f g => f.line = g.line → g.stop ≤ f.offset := by
  -- being apart is mutual, so the findings are apart in whatever order they are fixed
  have hordered : (inOrder fs).Pairwise fun f g => f.line = g.line → f.IsApart g := by
    refine ((perm_inOrder fs).pairwise_iff ?_).mpr hapart
    exact fun hfg hline => (hfg hline.symm).symm
  refine (hordered.and (pairwise_offset_inOrder h)).imp_of_mem fun {f g} hf _ hfg hline => ?_
  have hf' := hmatched f ((perm_inOrder fs).mem_iff.mp hf)
  exact Finding.stop_le_of_isApart (hfg.1 hline) hf' (hfg.2 hline)

/-- The findings on one of the lines of a text come from the right, if none reaches beyond
those before it. -/
theorem fromRight_inOrder {i : Nat} {piece : Text} (hpiece : (Text.pieces text)[i]? = some piece)
    (hstands : ∀ f ∈ fs, f.StandsIn text) (hoffset : ∀ f ∈ fs, f.offset ≤ reach f)
    (hreach : (Findings.inOrder fs).Pairwise fun f g => f.line = g.line → reach g ≤ f.offset) :
    Findings.FromRight reach (Text.body piece)
      (Findings.inOrder (Findings.onLine (1 + i) fs)) := by
  rw [← Findings.onLine_inOrder]
  have honLine : ∀ f ∈ Findings.onLine (1 + i) (Findings.inOrder fs),
      f ∈ fs ∧ f.line = 1 + i := by
    intro f hf
    obtain ⟨hmem, hline⟩ := List.mem_filter.mp hf
    exact ⟨(Findings.perm_inOrder fs).mem_iff.mp hmem, by simpa using hline⟩
  refine ⟨fun f hf => ?_, fun f hf => hoffset f (honLine f hf).1, ?_⟩
  · obtain ⟨hmem, hline⟩ := honLine f hf
    obtain ⟨before, after, hcut⟩ := (hstands f hmem).cutAt?_eq
    rw [(hstands f hmem).body_eq hline hpiece]
    exact ⟨before, f.matched ++ after, hcut⟩
  -- findings on one line are ordered among themselves as all findings are
  · refine (hreach.filter _).imp_of_mem fun {f g} hf hg h => h ?_
    rw [(honLine f hf).2, (honLine g hg).2]

/-- **When the turn of a finding in a text comes, its line is as it was up to where the
finding reaches**, if no finding on the line reaches beyond those before it. -/
theorem agreeUpTo_of_mem_attempts (hregistry : registry.KeepsStart)
    (hstands : ∀ f ∈ fs, f.StandsIn text) (hoffset : ∀ f ∈ fs, f.offset ≤ reach f)
    (hreach : (Findings.inOrder fs).Pairwise fun f g => f.line = g.line → reach g ≤ f.offset)
    {a : Attempt} (ha : a ∈ attempts registry text fs) :
    a.finding ∈ fs ∧ AgreeUpTo (reach a.finding) a.finding.content a.body := by
  obtain ⟨i, piece, hpiece, ha⟩ := mem_attempts.mp ha
  obtain ⟨hmem, hagree⟩ := agreeUpTo_of_mem_lineAttempts hregistry
    (fromRight_inOrder hpiece hstands hoffset hreach) (fun f _ => AgreeUpTo.refl (reach f) _) ha
  obtain ⟨hfound, hline⟩ := List.mem_filter.mp ((Findings.perm_inOrder _).mem_iff.mp hmem)
  have hline' : a.finding.line = 1 + i := by simpa using hline
  rw [(hstands a.finding hfound).body_eq hline' hpiece] at hagree
  exact ⟨hfound, hagree⟩

/-- When the turn of a finding in a text comes, its line can be cut where it was found. -/
theorem exists_cutAt?_of_mem_attempts (hregistry : registry.KeepsStart)
    (hstands : ∀ f ∈ fs, f.StandsIn text) {a : Attempt} (ha : a ∈ attempts registry text fs) :
    ∃ start tail, Text.cutAt? a.body a.finding.offset = some (start, tail) := by
  have horder := Findings.pairwise_offset_inOrder fun f hf => (hstands f hf).column_pos
  obtain ⟨hmem, hagree⟩ := agreeUpTo_of_mem_attempts hregistry hstands
    (fun f _ => Nat.le_refl f.offset) horder ha
  obtain ⟨before, after, hcut⟩ := (hstands a.finding hmem).cutAt?_eq
  obtain ⟨rest, hcut'⟩ := hagree.exists_cutAt? hcut
  exact ⟨before, rest, hcut'⟩

/-- **Findings that stand in a text are fixed with a result**, and the attempts tell how. -/
theorem fixText_of_standsIn (hregistry : registry.KeepsStart)
    (hstands : ∀ f ∈ fs, f.StandsIn text) (validator : Validator) (path : Path) :
    ∃ result, fixText registry validator path text fs = .ok result ∧
      Tells registry (attempts registry text fs) fs result.applied result.unresolved := by
  refine fixText_of_answered (fun f hf => ?_) (fun a ha => ?_) validator path
  · have hle := (hstands f hf).line_le
    rw [Text.lines, List.length_map] at hle
    exact ⟨(hstands f hf).line_pos, hle⟩
  · obtain ⟨start, tail, hcut⟩ := exists_cutAt?_of_mem_attempts hregistry hstands ha
    obtain ⟨answer, hanswer, -⟩ := Finding.attempt_of_cutAt? hregistry hcut
    exact ⟨answer, hanswer⟩

end Standing

/-! ### Fixing is safe -/

/-- **Every place that an attempt refers to is within the line** as it is then, and between
two characters: the offset of the finding, and the two ends of a call of grep that a rewrite
finds from there on. -/
structure Attempt.IsInRange (a : Attempt) : Prop where
  /-- The offset is not past the end of the line. -/
  offset_le : a.finding.offset ≤ Text.byteLength a.body
  /-- The line can be cut there. -/
  exists_cutAt? : ∃ start tail, Text.cutAt? a.body a.finding.offset = some (start, tail)
  /-- It can be cut before and after a call that is found behind it. -/
  cutAt?_call {start tail before after : Text} {call : Grep.Invocation} :
    Text.cutAt? a.body a.finding.offset = some (start, tail) →
    Grep.find? tail = some (before, call, after) →
    Text.cutAt? a.body (a.finding.offset + Text.byteLength before) =
        some (start ++ before, call.spelling 'P' call.quoted.pattern ++ after) ∧
      Text.cutAt? a.body (a.finding.offset + Text.byteLength before +
          Text.byteLength (call.spelling 'P' call.quoted.pattern)) =
        some (start ++ before ++ call.spelling 'P' call.quoted.pattern, after)

theorem Attempt.isInRange_of_cutAt? {a : Attempt} {start tail : Text}
    (hcut : Text.cutAt? a.body a.finding.offset = some (start, tail)) : a.IsInRange := by
  obtain ⟨hbody, hlength⟩ := Text.cutAt?_eq_some_iff.mp hcut
  refine ⟨?_, ⟨start, tail, hcut⟩, ?_⟩
  · rw [← hlength, hbody]
    exact Text.byteLength_le_of_prefix (List.prefix_append start tail)
  · intro start' tail' before after call hcut' hfind
    obtain ⟨rfl, rfl⟩ := Prod.mk.inj (Option.some.inj (hcut.symm.trans hcut'))
    have hcall := Grep.append_of_find? hfind
    rw [Text.cutAt?_eq_some_iff, Text.cutAt?_eq_some_iff, hbody, hcall]
    simp only [List.append_assoc, Text.byteLength_append, hlength, Nat.add_assoc, and_self]

namespace RuleSet

variable {s : RuleSet} {file : Path} {text : Text} {fs : List Finding}

theorem standsIn_of_sublist (h : fs.Sublist (s.scanText file text)) :
    ∀ f ∈ fs, f.StandsIn text :=
  fun _ hf => standsIn_of_mem_scanText (h.subset hf)

/-- **Fixing findings of a fresh scan never goes wrong.** Whatever findings of a scan are
fixed, there is a result; each of them has its turn, with all places that it refers to
within the line as it is then; and whether a finding would be fixed can be told of each of
them. -/
theorem fixText_scanText (h : fs.Sublist (s.scanText file text)) (validator : Validator)
    (path : Path) :
    (∃ result, fixText .builtin validator path text fs = .ok result ∧
        Tells .builtin (attempts .builtin text fs) fs result.applied result.unresolved) ∧
      (∀ a ∈ attempts .builtin text fs, a.IsInRange) ∧
      ∀ f ∈ s.scanText file text, ∃ fixable, f.isFixable .builtin = .ok fixable := by
  have hstands := standsIn_of_sublist h
  refine ⟨fixText_of_standsIn Registry.keepsStart_builtin hstands validator path,
    fun a ha => ?_, fun f hf => ?_⟩
  · obtain ⟨start, tail, hcut⟩ :=
      exists_cutAt?_of_mem_attempts Registry.keepsStart_builtin hstands ha
    exact Attempt.isInRange_of_cutAt? hcut
  · obtain ⟨before, after, hcut⟩ := (standsIn_of_mem_scanText hf).cutAt?_eq
    exact Finding.isFixable_of_cutAt? Registry.keepsStart_builtin hcut

/-- Rules for the same line: one with a rewrite, and two with templates, of which one finds
the beginning of what the rewrite is for. -/
def forOneLine : RuleSet :=
  ofRules <| [.shortening,
    { id := "perl-call", name := "A Perl pattern", pattern := "grep -P",
      strategy := some "transform", rewrite := some Registry.grepName },
    { id := "call", name := "A call", pattern := "grep", strategy := some "replace",
      template := some "egrep" }].filterMap fun d => (Rule.ofDefinition d).toOption

/-- The only line on which they find something, with a character of two bytes before it. -/
def oneLine : Text := "é; grep -P '\\d' ab\r\nls".toList

/-- What they find on it. -/
def inOneLine : List Finding := forOneLine.scanText (.ofString "script.sh") oneLine

/-- Two findings share a column, and the line has changed twice when the turn of the second
one comes. -/
theorem fixText_scanText_oneLine :
    inOneLine.map Finding.column = [18, 5, 5] ∧
      (attempts .builtin oneLine inOneLine).map Attempt.body =
        ["é; grep -P '\\d' ab".toList, "é; grep -P '\\d' c".toList,
          "é; grep -E '[0-9]' c".toList] ∧
      inOneLine.Sublist (forOneLine.scanText (.ofString "script.sh") oneLine) ∧
      (∃ result,
        fixText .builtin (fun _ => .ok ()) (.ofString "script.sh") oneLine inOneLine =
          .ok result ∧
        Tells .builtin (attempts .builtin oneLine inOneLine) inOneLine result.applied
          result.unresolved) ∧
      (∀ a ∈ attempts .builtin oneLine inOneLine, a.IsInRange) ∧
      ∀ f ∈ forOneLine.scanText (.ofString "script.sh") oneLine,
        ∃ fixable, f.isFixable .builtin = .ok fixable := by
  have hfound : inOneLine.Sublist (forOneLine.scanText (.ofString "script.sh") oneLine) :=
    List.Sublist.refl _
  exact ⟨by decide +kernel, by decide +kernel, hfound,
    fixText_scanText hfound (fun _ => .ok ()) (.ofString "script.sh")⟩

end RuleSet

/-! ### Findings that have not moved -/

theorem Finding.reason_of_changed {reason reason' : Reason} {line new : Text}
    (h : changed reason line new = .error reason') : reason' = reason := by
  rw [changed] at h
  split at h
  · exact (Except.error.inj h).symm
  · cases h

/-- A finding that has moved is not where it was found. -/
theorem Finding.cut?_of_moved {f : Finding} {registry : Registry} {line matched : Text}
    {column : Nat} (h : f.attempt registry line = .ok (.error (.moved matched column))) :
    f.cut? line = none := by
  rw [attempt] at h
  split at h
  · have hreplace := Except.ok.inj h
    rw [replace] at hreplace
    split at hreplace
    · cases hreplace
    split at hreplace
    · assumption
    · cases reason_of_changed (map_eq_error_iff.mp hreplace)
  · rw [transform] at h
    split at h
    · cases h
    · obtain ⟨outcome, -, hanswer⟩ := bind_eq_ok_iff.mp h
      cases outcome with
      | rewritten new => cases reason_of_changed (Except.ok.inj hanswer)
      | declined reason => cases hanswer
  · cases h
  · cases h

theorem Finding.cut?_of_cutAt? {f : Finding} {line start after : Text}
    (h : Text.cutAt? line f.offset = some (start, f.matched ++ after)) :
    f.cut? line = some (start, f.matched ++ after) := by
  have hstarts : Text.startsWith (f.matched ++ after) f.matched = true := by
    rw [Text.startsWith, Text.stripStart?_eq_some_iff.mpr rfl]
    rfl
  rw [cut?, h, Option.filter_some, if_pos hstarts]

/-- If what was found is always still there, nothing is left alone for having moved. -/
theorem Tells.reason_ne_moved {registry : Registry} {attempts : List Attempt}
    {fs : List Finding} {applied : List Applied} {unresolved : List Unresolved}
    (h : Tells registry attempts fs applied unresolved)
    (hthere : ∀ a ∈ attempts, ∃ start after,
      Text.cutAt? a.body a.finding.offset = some (start, a.finding.matched ++ after)) :
    ∀ u ∈ unresolved, ∀ matched column, u.reason ≠ .moved matched column := by
  intro u hu matched column hmoved
  rw [h.unresolved_eq] at hu
  obtain ⟨a, ha, hrecord⟩ := List.mem_filterMap.mp hu
  obtain ⟨reason, hattempt, rfl⟩ := Attempt.exists_reason hrecord
  obtain rfl : reason = .moved matched column := hmoved
  obtain ⟨start, after, hcut⟩ := hthere a ha
  have hnone := Finding.cut?_of_moved hattempt
  rw [Finding.cut?_of_cutAt? hcut] at hnone
  cases hnone

namespace RuleSet

variable {s : RuleSet} {file : Path} {text : Text} {fs : List Finding}

/-- **Findings that do not overlap are all still there when their turn comes.** If every
finding of a scan that is fixed has found something, and those on one line are apart, the
line still holds what was found, at the column where it was found, when a finding has its
turn; so none is left alone for having moved. -/
theorem fixText_scanText_of_isApart (h : fs.Sublist (s.scanText file text))
    (hmatched : ∀ f ∈ fs, f.matched ≠ [])
    (hapart : fs.Pairwise fun f g => f.line = g.line → f.IsApart g) (validator : Validator)
    (path : Path) :
    ∃ result, fixText .builtin validator path text fs = .ok result ∧
      Tells .builtin (attempts .builtin text fs) fs result.applied result.unresolved ∧
      (∀ a ∈ attempts .builtin text fs, ∃ start after,
        Text.cutAt? a.body a.finding.offset = some (start, a.finding.matched ++ after)) ∧
      ∀ u ∈ result.unresolved, ∀ matched column, u.reason ≠ .moved matched column := by
  have hstands := standsIn_of_sublist h
  have hreach := Findings.pairwise_stop_inOrder (fun f hf => (hstands f hf).column_pos)
    hmatched hapart
  have hthere : ∀ a ∈ attempts .builtin text fs, ∃ start after,
      Text.cutAt? a.body a.finding.offset = some (start, a.finding.matched ++ after) := by
    intro a ha
    obtain ⟨hmem, hagree⟩ := agreeUpTo_of_mem_attempts Registry.keepsStart_builtin hstands
      (fun f _ => f.offset_le_stop) hreach ha
    obtain ⟨before, after, hcut⟩ := (hstands a.finding hmem).cutAt?_eq
    obtain ⟨rest, hcut'⟩ := hagree.exists_cutAt?_append hcut (Nat.le_refl _)
    exact ⟨before, rest, hcut'⟩
  obtain ⟨result, hresult, htells⟩ :=
    fixText_of_standsIn Registry.keepsStart_builtin hstands validator path
  exact ⟨result, hresult, htells, hthere, htells.reason_ne_moved hthere⟩

/-- The text that two of them have found is apart; the first one makes the line shorter, and
the other one is where it was. -/
theorem fixText_scanText_of_isApart_oneLine :
    (inOneLine.take 2).Sublist (forOneLine.scanText (.ofString "script.sh") oneLine) ∧
      (∀ f ∈ inOneLine.take 2, f.matched ≠ []) ∧
      (inOneLine.take 2).Pairwise (fun f g => f.line = g.line → f.IsApart g) ∧
      ∃ result,
        fixText .builtin (fun _ => .ok ()) (.ofString "script.sh") oneLine (inOneLine.take 2) =
          .ok result ∧
        Tells .builtin (attempts .builtin oneLine (inOneLine.take 2)) (inOneLine.take 2)
          result.applied result.unresolved ∧
        (∀ a ∈ attempts .builtin oneLine (inOneLine.take 2), ∃ start after,
          Text.cutAt? a.body a.finding.offset = some (start, a.finding.matched ++ after)) ∧
        ∀ u ∈ result.unresolved, ∀ matched column, u.reason ≠ .moved matched column := by
  have hfound : (inOneLine.take 2).Sublist
      (forOneLine.scanText (.ofString "script.sh") oneLine) := List.take_sublist 2 _
  have hmatched : ∀ f ∈ inOneLine.take 2, f.matched ≠ [] := by decide +kernel
  have hapart : (inOneLine.take 2).Pairwise fun f g => f.line = g.line → f.IsApart g := by
    decide +kernel
  exact ⟨hfound, hmatched, hapart, fixText_scanText_of_isApart hfound hmatched hapart
    (fun _ => .ok ()) (.ofString "script.sh")⟩

end RuleSet

end GnuLint
