import GnuLint.Proofs.Fix.WholeLine
import Mathlib.Data.List.Permutation

/-!
# Two findings on a line

Of two findings on a line, the one on the right is fixed first. The column of the other one is
still right then, but its fix does not stop at what was found: it replaces in all that comes
after it, and among this is the text that the first fix has put in
(`GnuLint.Rule.fixText_twoFindings`).

So the two fixes are independent only under a condition on the line between them: what the rule
on the left looks for must not come up in the text that was put in, nor where this text meets
the rest of the line. Then, if both findings stand alone, the line is the old one with the two
texts replaced. Without the condition, a fix may take for its own what the other one has put in
(`GnuLint.Rule.fixText_twoFindings_putIn`).
-/

namespace GnuLint

/-! ### The only match -/

namespace Pattern

variable {p : Pattern} {o : Occurrence} {t : Text}

/-- Where the matches of a pattern begin and end. -/
def spans (p : Pattern) (s : Text) : List (Nat × Nat) := (p.hits s).map fun h => (h.start, h.stop)

/-- **An occurrence is the only match** of a pattern in its text. -/
def IsOnlyMatch (p : Pattern) (o : Occurrence) : Prop :=
  p.spans (o.before ++ o.matched ++ o.after) = [(o.before.length, (o.before ++ o.matched).length)]

instance (p : Pattern) (o : Occurrence) : Decidable (p.IsOnlyMatch o) :=
  inferInstanceAs (Decidable (_ = _))

theorem IsOnlyMatch.exists_hit (h : p.IsOnlyMatch o) :
    ∃ hit, p.hits (o.before ++ o.matched ++ o.after) = [hit] ∧ hit.start = o.before.length ∧
      hit.stop = (o.before ++ o.matched).length := by
  obtain ⟨hit, hhits, hspan⟩ := List.map_eq_singleton_iff.mp h
  obtain ⟨hstart, hstop⟩ := Prod.mk.inj hspan
  exact ⟨hit, hhits, hstart, hstop⟩

/-- The only match is the first one. -/
theorem IsOnlyMatch.find?_eq (h : p.IsOnlyMatch o) :
    p.find? (o.before ++ o.matched ++ o.after) = some o := by
  obtain ⟨hit, hhits, hstart, hstop⟩ := h.exists_hit
  have hfirst : p.hit? (o.before ++ o.matched ++ o.after) = some hit := by
    rw [hits, hitsWithin_succ, next?_none] at hhits
    rw [hit?]
    split at hhits
    · cases hhits
    · rename_i first hsearch
      rw [hsearch, (List.cons.inj hhits).1]
  have hlength : hit.stop - hit.start = o.matched.length := by
    rw [hstart, hstop, List.length_append]
    omega
  rw [find?, hfirst, Option.map_some, occurrence, slice, hlength, hstart, List.append_assoc]
  simp only [List.take_left, List.drop_left]

/-- **Where there is only one match, replacing all of them replaces this one.** -/
theorem IsOnlyMatch.replaceAll_eq (h : p.IsOnlyMatch o) (ht : '$' ∉ t) :
    p.replaceAll (o.before ++ o.matched ++ o.after) t = o.before ++ t ++ o.after := by
  obtain ⟨hit, hhits, hstart, hstop⟩ := h.exists_hit
  rw [replaceAll, hhits, replaceFrom, replaceFrom, Template.expand_of_notMem ht, hstart, hstop,
    slice, List.drop_left, List.append_assoc]
  simp

/-- Whether an occurrence stands alone does not depend on what comes after it. -/
theorem StandsAlone.of_after {before matched after : Text}
    (h : p.StandsAlone ⟨before, matched, after⟩) (hmatched : matched ≠ []) (after' : Text) :
    p.StandsAlone ⟨before, matched, after'⟩ := by
  rw [StandsAlone, List.head?_append_of_ne_nil _ hmatched] at h ⊢
  exact h

/-- Nor does it matter whether the text before the match is there, if the match stands alone. -/
theorem IsOnlyMatch.replaceAll_tail (h : p.IsOnlyMatch o) (halone : p.StandsAlone o)
    (ht : '$' ∉ t) : p.replaceAll (o.matched ++ o.after) t = t ++ o.after := by
  have hwhole := h.replaceAll_eq ht
  rw [replaceAll_of_standsAlone h.find?_eq halone, List.append_assoc] at hwhole
  exact List.append_cancel_left hwhole

end Pattern

/-! ### Two findings -/

/-- **The one further to the right comes first**, however two findings on a line are given. -/
theorem Findings.inOrder_of_perm {fs : List Finding} {f g : Finding} (hfs : fs.Perm [f, g])
    (hline : f.line = g.line) (hcolumn : f.column < g.column) : inOrder fs = [g, f] := by
  rcases List.perm_pair.mp hfs with rfl | rfl
  · have hbefore : isBefore g f = true := by
      rw [isBefore, Bool.or_eq_true, Bool.and_eq_true, decide_eq_true_eq, decide_eq_true_eq,
        beq_iff_eq]
      omega
    rw [inOrder, inOrder, inOrder, insertInOrder, insertInOrder, if_pos hbefore, insertInOrder]
  · have hbefore : isBefore f g = false := isBefore_eq_false_iff.mpr (by omega)
    rw [inOrder, inOrder, inOrder, insertInOrder, insertInOrder, hbefore, if_neg Bool.false_ne_true]

/-- **A rule puts a text in the place of matches**, and the text stands for itself. -/
structure Rule.PutsIn (r : Rule) (t : Text) : Prop where
  strategy_eq : r.strategy = .replace
  template_eq : r.template = some (String.ofList t)
  noReference : '$' ∉ t

instance (r : Rule) (t : Text) : Decidable (r.PutsIn t) :=
  decidable_of_iff (r.strategy = .replace ∧ r.template = some (String.ofList t) ∧ '$' ∉ t)
    ⟨fun h => ⟨h.1, h.2.1, h.2.2⟩, fun h => ⟨h.1, h.2, h.3⟩⟩

/-- **Two rules report a line**, and what one of them finds ends before what the other one finds
begins: `u`, `v` and `w` are what is left of the line. -/
structure Rule.ReportApart (r q : Rule) (file : Path) (number : Nat) (u a v b w : Text)
    (f g : Finding) : Prop where
  /-- The first rule finds the text on the left. -/
  left : r.findingOn? file number (u ++ a ++ (v ++ b ++ w)) = some f
  /-- It matches nothing else. -/
  onlyLeft : r.pattern.IsOnlyMatch ⟨u, a, v ++ b ++ w⟩
  /-- The second rule finds the text on the right. -/
  right : q.findingOn? file number (u ++ a ++ v ++ b ++ w) = some g
  /-- It matches nothing else. -/
  onlyRight : q.pattern.IsOnlyMatch ⟨u ++ a ++ v, b, w⟩
  left_ne_nil : a ≠ []
  right_ne_nil : b ≠ []

namespace Rule

variable {r q : Rule} {file : Path} {f g : Finding} {fs : List Finding} {text piece : Text}
  {i : Nat} {u a v b w s t : Text}

/-- **Fixing two findings on a line** fixes the one on the right, and then the one on the left
in all that comes after it, the text that the first fix has put in among it. If both findings
stand alone, and the rule on the left finds nothing else in the line that the first fix leaves,
the two texts that were found are replaced and nothing else is. -/
theorem fixText_twoFindings (hs : r.PutsIn s) (ht : q.PutsIn t)
    (hpiece : (Text.pieces text)[i]? = some piece)
    (hbody : Text.body piece = u ++ a ++ v ++ b ++ w)
    (hfound : r.ReportApart q file (1 + i) u a v b w f g) (hfs : fs.Perm [f, g])
    (registry : Registry) (validator : Validator) (path : Path) :
    ∃ middle new, middle = u ++ (a ++ (v ++ q.pattern.replaceAll (b ++ w) t)) ∧
      new = u ++ r.pattern.replaceAll (a ++ (v ++ q.pattern.replaceAll (b ++ w) t)) s ∧
      fixText registry validator path text fs = .ok (FixResult.judge validator path text {
        text := Text.withLine text i new
        applied := (g.onto (Text.body piece) middle).applied ++ (f.onto middle new).applied
        unresolved :=
          (g.onto (Text.body piece) middle).unresolved ++ (f.onto middle new).unresolved }) ∧
      (r.pattern.StandsAlone ⟨u, a, v ++ b ++ w⟩ →
        q.pattern.StandsAlone ⟨u ++ a ++ v, b, w⟩ → r.pattern.IsOnlyMatch ⟨u, a, v ++ t ++ w⟩ →
        middle = u ++ a ++ v ++ t ++ w ∧ new = u ++ s ++ v ++ t ++ w) := by
  have hleft := shows_of_findingOn? hfound.left
  have hright := shows_of_findingOn? hfound.right
  have hfindLeft := hfound.onlyLeft.find?_eq
  have hfindRight := hfound.onlyRight.find?_eq
  obtain ⟨o, ho, hcolumnf, hmatched⟩ := hleft.occurrence
  obtain rfl := Option.some.inj (hfindLeft.symm.trans ho)
  obtain ⟨o, ho, hcolumng, -⟩ := hright.occurrence
  obtain rfl := Option.some.inj (hfindRight.symm.trans ho)
  have hcolumn : f.column < g.column := by
    have hpos := Text.byteLength_pos hfound.left_ne_nil
    simp only [Text.byteLength_append] at hcolumnf hcolumng
    omega
  have horder := Findings.inOrder_of_perm hfs (hleft.line_eq.trans hright.line_eq.symm) hcolumn
  -- the finding on the right is fixed on the line itself, the other one on what this leaves
  have hattemptg := attempt_of_findingOn? registry ht.strategy_eq ht.template_eq hfound.right
    hfindRight
  have hoffset : f.offset = Text.byteLength u := by
    rw [Finding.offset, hcolumnf]
    simp
  have hattemptf := Finding.attempt_of_append (v ++ q.pattern.replaceAll (b ++ w) t) registry
    (hleft.rule_eq ▸ hs.strategy_eq) (hleft.rule_eq ▸ hs.template_eq) hoffset
  simp only [hmatched, hleft.rule_eq, String.toList_ofList] at hattemptf
  simp only [String.toList_ofList, List.append_assoc] at hattemptg
  have hline := fixLine_cons_of_changed hattemptg (fixLine_of_answer hattemptf)
  have hnumber : ∀ h ∈ fs, h.line = 1 + i := by
    intro h hh
    rcases List.mem_pair.mp (hfs.mem_iff.mp hh) with rfl | rfl
    · exact hleft.line_eq
    · exact hright.line_eq
  refine ⟨_, _, rfl, rfl, ?_, fun haloneLeft haloneRight hstill => ?_⟩
  · rw [← horder, ← List.append_assoc u, ← List.append_assoc (u ++ a),
      ← List.append_assoc (u ++ a ++ v), ← hbody] at hline
    rw [fixText_of_onLine hpiece hnumber hline validator path, FixedPart.inText, ← Finding.onto,
      Finding.text_onto]
  · have hput := hstill.replaceAll_tail (haloneLeft.of_after hfound.left_ne_nil _) hs.noReference
    rw [hfound.onlyRight.replaceAll_tail haloneRight ht.noReference, ← List.append_assoc v, hput]
    simp only [List.append_assoc, and_self]

end Rule

/-- The definition of a rule that looks for a word at its beginning. -/
def Definition.wordStart : Definition where
  id := "word-start"
  name := "The beginning of a word"
  pattern := "\\bab"
  strategy := some "replace"
  template := some "c"

/-- The definition of a rule for a Perl pattern. -/
def Definition.perlFlag : Definition where
  id := "perl-flag"
  name := "A Perl pattern"
  pattern := "-P"
  strategy := some "replace"
  template := some "-E"

/-- The definition of a rule that puts in what another rule is for. -/
def Definition.spelledOut : Definition where
  id := "spelled-out"
  name := "A letter"
  pattern := "x"
  strategy := some "replace"
  template := some "ab"

namespace Rule

/-- The rule for the beginning of words. -/
def wordStart : Rule := (Rule.ofDefinition .wordStart).toOption.get (by decide +kernel)

/-- The rule for a Perl pattern. -/
def perlFlag : Rule := (Rule.ofDefinition .perlFlag).toOption.get (by decide +kernel)

/-- The rule that puts in two letters. -/
def spelledOut : Rule := (Rule.ofDefinition .spelledOut).toOption.get (by decide +kernel)

/-- The rule on the left looks at the character before, which is a space. -/
theorem fixText_twoFindings_wordStart :
    ∃ middle new, middle = "cd ab; grep -E x".toList ∧ new = "cd c; grep -E x".toList ∧
      wordStart.PutsIn "c".toList ∧ perlFlag.PutsIn "-E".toList ∧
      wordStart.ReportApart perlFlag (.ofString "script.sh") (1 + 0) "cd ".toList "ab".toList
        "; grep ".toList "-P".toList " x".toList (wordStart.finding "cd ab; grep -P x" 4 "ab")
        (perlFlag.finding "cd ab; grep -P x" 13 "-P") ∧
      fixText ∅ (fun _ => .ok ()) (.ofString "script.sh") "cd ab; grep -P x\nls".toList
          [wordStart.finding "cd ab; grep -P x" 4 "ab",
            perlFlag.finding "cd ab; grep -P x" 13 "-P"] =
        .ok (FixResult.judge (fun _ => .ok ()) (.ofString "script.sh")
          "cd ab; grep -P x\nls".toList {
            text := Text.withLine "cd ab; grep -P x\nls".toList 0 new
            applied := [(perlFlag.finding "cd ab; grep -P x" 13 "-P").applied
                "cd ab; grep -P x".toList middle,
              (wordStart.finding "cd ab; grep -P x" 4 "ab").applied middle new]
            unresolved := [] }) := by
  have hfound : wordStart.ReportApart perlFlag (.ofString "script.sh") (1 + 0) "cd ".toList
      "ab".toList "; grep ".toList "-P".toList " x".toList
      (wordStart.finding "cd ab; grep -P x" 4 "ab")
      (perlFlag.finding "cd ab; grep -P x" 13 "-P") :=
    ⟨by decide +kernel, by decide +kernel, by decide +kernel, by decide +kernel, by decide,
      by decide⟩
  have hs : wordStart.PutsIn "c".toList := by decide +kernel
  have ht : perlFlag.PutsIn "-E".toList := by decide +kernel
  have hpiece : (Text.pieces "cd ab; grep -P x\nls".toList)[0]? =
      some "cd ab; grep -P x\n".toList := by
    decide +kernel
  obtain ⟨middle, new, -, -, hfixed, hsplice⟩ := fixText_twoFindings hs ht hpiece
    (by decide +kernel) hfound (.refl _) ∅ (fun _ => .ok ()) (.ofString "script.sh")
  obtain ⟨rfl, rfl⟩ := hsplice (by decide +kernel) (by decide +kernel) (by decide +kernel)
  exact ⟨_, _, by decide +kernel, by decide +kernel, hs, ht, hfound, hfixed⟩

/-- **What one fix puts in, another one takes for its own.** Both rules have one match on the
line, and both fixes are applied; but the fix on the right has put in what the rule on the left
looks for, and the fix on the left replaces this too. -/
theorem fixText_twoFindings_putIn :
    Finding.shortening.rule.PutsIn "c".toList ∧ spelledOut.PutsIn "ab".toList ∧
      Finding.shortening.rule.ReportApart spelledOut (.ofString "script.sh") 1 [] "ab".toList
        " ".toList "x".toList [] (Finding.shortening.rule.finding "ab x" 1 "ab")
        (spelledOut.finding "ab x" 4 "x") ∧
      fixText ∅ (fun _ => .ok ()) (.ofString "script.sh") "ab x\n".toList
          [Finding.shortening.rule.finding "ab x" 1 "ab", spelledOut.finding "ab x" 4 "x"] =
        .ok {
          path := .ofString "script.sh"
          content := "c c\n".toList
          applied :=
            [(spelledOut.finding "ab x" 4 "x").applied "ab x".toList "ab ab".toList,
              (Finding.shortening.rule.finding "ab x" 1 "ab").applied "ab ab".toList
                "c c".toList]
          unresolved := []
          candidate := some "c c\n".toList
          rejection := none } ∧
      "c c".toList ≠ "c".toList ++ " ".toList ++ "ab".toList := by
  refine ⟨by decide +kernel, by decide +kernel,
    ⟨by decide +kernel, by decide +kernel, by decide +kernel, by decide +kernel, by decide,
      by decide⟩, by decide +kernel, by decide⟩

end Rule

end GnuLint
