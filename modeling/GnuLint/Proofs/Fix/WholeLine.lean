import GnuLint.Proofs.Fix.FreshFindings
import GnuLint.Proofs.Pattern.Language
import GnuLint.Proofs.Pattern.Tail
import GnuLint.Proofs.Rule.Catalog

/-!
# Replacing on the whole line

A finding with a template is fixed on the line from the finding on: the text before it is put
aside, and in what is left every match is replaced. This is meant to come to the same as
replacing every match on the line, since the finding is the first one.

It does if the finding stands alone (`GnuLint.Rule.fixText_findingOn`). What the rules of the
catalogue find always does, since their patterns begin with a word
(`GnuLint.Pattern.standsAlone_of_beginsWithWord`). Otherwise it may not: the cut hides the
character before the finding from conditions that look at it, so that the rest of the line may
match in another way or not at all (`GnuLint.Rule.fixText_insideWord`).

The first half of the file brings a text down to one of its lines: if all findings are on one
line, the text is fixed by fixing this line (`GnuLint.fixText_of_onLine`).
-/

namespace GnuLint

variable {registry : Registry} {fs : List Finding}

/-! ### Texts with findings on one line only -/

/-- The text with another body on one of its lines; lines are counted from zero. -/
def Text.withLine (text : Text) (i : Nat) (new : Text) : Text :=
  ((Text.pieces text).modify i fun piece => new ++ Text.terminator piece).flatten

/-- A fixed line, put back into its text. -/
def FixedPart.inText (part : FixedPart Text) (text : Text) (i : Nat) : FixedPart Text :=
  { part with text := Text.withLine text i part.text }

/-- Lines without findings stay what they are. -/
theorem fixPieces_of_forall_lt {number : Nat} {pieces : List Text}
    (h : ∀ f ∈ fs, f.line < number) :
    fixPieces registry fs number pieces = .ok ⟨pieces, [], []⟩ := by
  induction pieces generalizing number with
  | nil => rfl
  | cons piece pieces ih =>
    have hnone : Findings.onLine number fs = [] := by
      refine List.filter_eq_nil_iff.mpr fun f hf => ?_
      have hline := h f hf
      simp only [decide_eq_true_eq]
      omega
    have hlater : ∀ f ∈ fs, f.line < number + 1 := fun f hf => Nat.lt_succ_of_lt (h f hf)
    rw [fixPieces, hnone, ih hlater]
    simp [fixLine, bind, Except.bind, pure, Except.pure, Text.body_append_terminator]

/-- If all findings are on one line, the other ones stay what they are. -/
theorem fixPieces_of_onLine {number i : Nat} {pieces : List Text} {piece : Text}
    {part : FixedPart Text} (hpiece : pieces[i]? = some piece)
    (hfs : ∀ f ∈ fs, f.line = number + i)
    (hline : fixLine registry fs (Text.body piece) = .ok part) :
    fixPieces registry fs number pieces =
      .ok ⟨pieces.modify i fun piece => part.text ++ Text.terminator piece, part.applied,
        part.unresolved⟩ := by
  induction pieces generalizing number i with
  | nil => cases hpiece
  | cons first pieces ih =>
    cases i with
    | zero =>
      obtain rfl : first = piece := Option.some.inj hpiece
      have hall : Findings.onLine number fs = fs :=
        List.filter_eq_self.mpr fun f hf => by simpa using hfs f hf
      have hdone : ∀ f ∈ fs, f.line < number + 1 := fun f hf =>
        Nat.lt_succ_of_le (Nat.le_of_eq (hfs f hf))
      rw [fixPieces, hall, hline, fixPieces_of_forall_lt hdone]
      simp [bind, Except.bind, pure, Except.pure]
    | succ i =>
      have hnone : Findings.onLine number fs = [] := by
        refine List.filter_eq_nil_iff.mpr fun f hf => ?_
        have hline := hfs f hf
        simp only [decide_eq_true_eq]
        omega
      have hlater : ∀ f ∈ fs, f.line = number + 1 + i := by
        intro f hf
        rw [hfs f hf]
        omega
      rw [fixPieces, hnone, ih hpiece hlater]
      simp [fixLine, bind, Except.bind, pure, Except.pure, Text.body_append_terminator]

/-- **A text all of whose findings are on one line is fixed by fixing this line.** -/
theorem fixText_of_onLine {text piece : Text} {i : Nat} {part : FixedPart Text}
    (hpiece : (Text.pieces text)[i]? = some piece) (hfs : ∀ f ∈ fs, f.line = 1 + i)
    (hline : fixLine registry (Findings.inOrder fs) (Text.body piece) = .ok part)
    (validator : Validator) (path : Path) :
    fixText registry validator path text fs =
      .ok (FixResult.judge validator path text (part.inText text i)) := by
  have hinside : ∀ f ∈ fs, 1 ≤ f.line ∧ f.line ≤ (Text.pieces text).length := by
    intro f hf
    have hlt := (List.getElem?_eq_some_iff.mp hpiece).1
    have heq := hfs f hf
    omega
  have hpieces := fixPieces_of_onLine hpiece
    (fun f hf => hfs f ((Findings.perm_inOrder fs).mem_iff.mp hf)) hline
  exact bind_eq_ok_iff.mpr ⟨_, fixUnchecked_of_fixPieces hinside hpieces, rfl⟩

/-! ### Fixes that may change nothing -/

/-- **What becomes of a line** with the answer to the attempt of a finding on it. -/
def Finding.answered (f : Finding) (line : Text) : Except Reason Text → FixedPart Text
  | .ok fixed => ⟨fixed, [f.applied line fixed], []⟩
  | .error reason => ⟨line, [], [f.unresolved reason]⟩

/-- A finding that is alone on a line makes of it what the answer says. -/
theorem fixLine_of_answer {f : Finding} {line : Text} {answer : Except Reason Text}
    (h : f.attempt registry line = .ok answer) :
    fixLine registry [f] line = .ok (f.answered line answer) := by
  rw [fixLine, h]
  cases answer <;> rfl

/-- What becomes of a line that a finding would make another one of: a fix that changes nothing
does not count. -/
def Finding.onto (f : Finding) (line new : Text) : FixedPart Text :=
  f.answered line (changed .sameReplacement line new)

theorem Finding.text_onto (f : Finding) (line new : Text) : (f.onto line new).text = new := by
  rw [onto, changed]
  split
  · rename_i h
    exact h.symm
  · rfl

/-- The first finding on a line makes the line another one, and the others go on from there. -/
theorem fixLine_cons_of_changed {f : Finding} {line new : Text} {rest : FixedPart Text}
    (h : f.attempt registry line = .ok (Finding.changed .sameReplacement line new))
    (hrest : fixLine registry fs new = .ok rest) :
    fixLine registry (f :: fs) line =
      .ok ⟨rest.text, (f.onto line new).applied ++ rest.applied,
        (f.onto line new).unresolved ++ rest.unresolved⟩ := by
  rw [fixLine, h, Finding.onto, Finding.changed]
  split
  · rename_i hsame
    rw [hsame] at hrest
    exact bind_eq_ok_iff.mpr ⟨_, rfl, bind_eq_ok_iff.mpr ⟨rest, hrest, rfl⟩⟩
  · exact bind_eq_ok_iff.mpr ⟨_, rfl, bind_eq_ok_iff.mpr ⟨rest, hrest, rfl⟩⟩

namespace Finding

variable {f : Finding} {line : Text} {template : String} {o : Occurrence}

theorem changed_append (reason : Reason) (start tail new : Text) :
    (changed reason tail new).map (start ++ ·) = changed reason (start ++ tail) (start ++ new) := by
  rw [changed, changed]
  by_cases h : new = tail
  · rw [if_pos h, if_pos (congrArg _ h)]
    rfl
  · rw [if_neg h, if_neg (mt List.append_cancel_left h)]
    rfl

/-- **A finding with a template replaces all matches from where it is on.** -/
theorem attempt_of_append {start : Text} (after : Text) (registry : Registry)
    (hstrategy : f.rule.strategy = .replace) (htemplate : f.rule.template = some template)
    (hoffset : f.offset = Text.byteLength start) :
    f.attempt registry (start ++ (f.matched ++ after)) =
      .ok (changed .sameReplacement (start ++ (f.matched ++ after))
        (start ++ f.rule.pattern.replaceAll (f.matched ++ after) template.toList)) := by
  have hcut : f.cut? (start ++ (f.matched ++ after)) = some (start, f.matched ++ after) := by
    refine cut?_of_cutAt? ?_
    rw [hoffset, Text.cutAt?_byteLength]
  rw [attempt, hstrategy]
  dsimp only
  rw [replace, htemplate]
  dsimp only
  rw [hcut]
  exact congrArg Except.ok (changed_append _ _ _ _)

end Finding

/-! ### Patterns that begin with a word -/

/-- The character that an expression begins with, if it asks for a word to begin or to end before
it. -/
def Regex.initial? : Regex → Option Char
  | .seq (.look (.word .boundary true)) (.seq (.set (.range first last)) _) =>
    if first = last then some first else none
  | _ => none

theorem Regex.exists_of_initial? {r : Regex} {c : Char} (h : r.initial? = some c) :
    ∃ r', r = .seq (.look (.word .boundary true)) (.seq (.set (.single c)) r') := by
  unfold initial? at h
  split at h
  · rename_i first last r'
    split at h
    · rename_i hsame
      rw [← Option.some.inj h, ← hsame]
      exact ⟨r', rfl⟩
    · cases h
  · cases h

/-- **An expression begins with a word**: it asks for its beginning, goes on with a character of
it, and has no other conditions than that a word begins or ends. -/
def Regex.BeginsWithWord (r : Regex) : Prop :=
  r.initial?.any (Look.isWord true) = true ∧
    ∀ condition ∈ (Program.ofRegex r).conditions, condition = .word .boundary true

instance (r : Regex) : Decidable r.BeginsWithWord :=
  inferInstanceAs (Decidable (_ ∧ _))

/-- **What begins with a word stands alone**: before it, there is no word to go on with. -/
theorem Pattern.standsAlone_of_beginsWithWord {p : Pattern} {s : Text} {o : Occurrence}
    (h : p.parsed.regex.BeginsWithWord) (ho : p.find? s = some o) : p.StandsAlone o := by
  obtain ⟨hword, hconditions⟩ := h
  obtain ⟨c, hinitial, hc⟩ := (Option.any_eq_true _ _).mp hword
  obtain ⟨r, hregex⟩ := Regex.exists_of_initial? hinitial
  have hmatches := matches_of_find? ho
  rw [hregex] at hmatches
  obtain ⟨t, u, hmatched, ⟨rfl, hholds⟩, v, w, rfl, ⟨d, rfl, hd⟩, -⟩ := hmatches
  rw [CharSet.mem_single, decide_eq_true_eq] at hd
  have hnone : (Look.word .boundary true).holds none (some c) = true := by
    simpa [Look.holds] using hc
  intro condition hcondition
  rw [p.program_eq] at hcondition
  rw [hconditions condition hcondition, hmatched, hd]
  rw [hd] at hholds
  exact hholds.trans hnone.symm

/-- **The rules of the catalogue that put a text in** look for what begins with a word. -/
theorem Catalog.beginsWithWord_of_replace {r : Rule} (hr : r ∈ rules.rules)
    (hreplace : r.strategy = .replace) : r.pattern.parsed.regex.BeginsWithWord := by
  have hall : ∀ d ∈ definitions,
      Strategy.replace.name = (Rule.nonEmpty d.strategy).getD Strategy.fallback.name →
      ∀ parsed ∈ (Regex.parse d.pattern.toList).toOption, parsed.regex.BeginsWithWord := by
    decide +kernel
  obtain ⟨d, hd, hrule⟩ := mem_rules_iff.mp hr
  have hof := Rule.isOf_of_ofDefinition hrule
  refine hall d hd ?_ r.pattern.parsed ?_
  · rw [← hof.strategy_eq, hreplace]
  · rw [← hof.source_eq, r.pattern.parse_source]
    rfl

/-! ### One finding -/

namespace Rule

variable {r : Rule} {file : Path} {f : Finding} {text piece : Text} {i : Nat} {template : String}

/-- A finding of a rule is fixed by replacing from its occurrence on. -/
theorem attempt_of_findingOn? {number : Nat} {line : Text} {o : Occurrence} (registry : Registry)
    (hstrategy : r.strategy = .replace) (htemplate : r.template = some template)
    (hf : r.findingOn? file number line = some f) (ho : r.pattern.find? line = some o) :
    f.attempt registry line =
      .ok (Finding.changed .sameReplacement line
        (o.before ++ r.pattern.replaceAll (o.matched ++ o.after) template.toList)) := by
  have hshows := shows_of_findingOn? hf
  obtain ⟨o', ho', hcolumn, hmatched⟩ := hshows.occurrence
  obtain rfl : o = o' := Option.some.inj (ho.symm.trans ho')
  have hoffset : f.offset = Text.byteLength o.before := by
    rw [Finding.offset, hcolumn]
    simp
  have hattempt := Finding.attempt_of_append o.after registry
    (hshows.rule_eq ▸ hstrategy) (hshows.rule_eq ▸ htemplate) hoffset
  rwa [hmatched, hshows.rule_eq, ← List.append_assoc, Pattern.append_find? ho] at hattempt

/-- **Fixing what a rule finds on a line replaces all matches of the line**, if the first one
stands alone; for the rules of the catalogue it always does. In any case it replaces those of the
line from the first one on, and the finding is left alone exactly if that changes nothing. -/
theorem fixText_findingOn (hstrategy : r.strategy = .replace)
    (htemplate : r.template = some template) (hpiece : (Text.pieces text)[i]? = some piece)
    (hf : r.findingOn? file (1 + i) (Text.body piece) = some f) (registry : Registry)
    (validator : Validator) (path : Path) :
    ∃ o new, r.pattern.find? (Text.body piece) = some o ∧
      fixText registry validator path text [f] =
        .ok (FixResult.judge validator path text ((f.onto (Text.body piece) new).inText text i)) ∧
      new = o.before ++ r.pattern.replaceAll (o.matched ++ o.after) template.toList ∧
      (r.pattern.StandsAlone o ∨ r ∈ Catalog.rules.rules →
        new = r.pattern.replaceAll (Text.body piece) template.toList) := by
  have hshows := shows_of_findingOn? hf
  obtain ⟨o, ho, -⟩ := hshows.occurrence
  have hattempt := attempt_of_findingOn? registry hstrategy htemplate hf ho
  refine ⟨o, _, ho, fixText_of_onLine hpiece ?_ (fixLine_of_answer hattempt) validator path,
    rfl, fun h => ?_⟩
  · simpa using hshows.line_eq
  · have halone : r.pattern.StandsAlone o := by
      rcases h with halone | hr
      · exact halone
      · exact Pattern.standsAlone_of_beginsWithWord
          (Catalog.beginsWithWord_of_replace hr hstrategy) ho
    exact (Pattern.replaceAll_of_standsAlone ho halone template.toList).symm

end Rule

/-- The definition of a rule that looks for two letters inside a word. -/
def Definition.insideWord : Definition where
  id := "inside-word"
  name := "Inside a word"
  pattern := "\\Bab"
  strategy := some "replace"
  template := some "c"

namespace Rule

/-- The rule for the inside of words. -/
def insideWord : Rule := (Rule.ofDefinition .insideWord).toOption.get (by decide +kernel)

/-- What a rule finds on the first line of a script. -/
def finding (r : Rule) (line : String) (column : Nat) (matched : String) : Finding where
  rule := r
  file := .ofString "script.sh"
  line := 1
  column
  content := line.toList
  matched := matched.toList

/-- The rule of the catalogue for extended expressions of sed. -/
def extendedSed : Rule := (Rule.ofDefinition Catalog.sedExtendedR).toOption.get (by decide +kernel)

/-- A call of sed after another word that ends like it, and before another call. -/
def sedCall : Finding := extendedSed.finding "parsed -r; sed -r p x | sed -r q" 12 "sed -r"

/-- Two calls are rewritten, and the end of another word is not taken for a call. -/
theorem fixText_findingOn_extendedSed :
    (Text.pieces "parsed -r; sed -r p x | sed -r q\r\n".toList)[0]? =
        some "parsed -r; sed -r p x | sed -r q\r\n".toList ∧
      extendedSed.findingOn? (.ofString "script.sh") 1
        "parsed -r; sed -r p x | sed -r q".toList = some sedCall ∧
      extendedSed ∈ Catalog.rules.rules ∧
      extendedSed.pattern.replaceAll "parsed -r; sed -r p x | sed -r q".toList "sed -E".toList =
        "parsed -r; sed -E p x | sed -E q".toList ∧
      ∃ o new, extendedSed.pattern.find? "parsed -r; sed -r p x | sed -r q".toList = some o ∧
        fixText ∅ (fun _ => .ok ()) (.ofString "script.sh")
            "parsed -r; sed -r p x | sed -r q\r\n".toList [sedCall] =
          .ok (FixResult.judge (fun _ => .ok ()) (.ofString "script.sh")
            "parsed -r; sed -r p x | sed -r q\r\n".toList
            ((sedCall.onto "parsed -r; sed -r p x | sed -r q".toList new).inText
              "parsed -r; sed -r p x | sed -r q\r\n".toList 0)) ∧
        new = o.before ++ extendedSed.pattern.replaceAll (o.matched ++ o.after) "sed -E".toList ∧
        (extendedSed.pattern.StandsAlone o ∨ extendedSed ∈ Catalog.rules.rules →
          new = extendedSed.pattern.replaceAll "parsed -r; sed -r p x | sed -r q".toList
            "sed -E".toList) := by
  have hpiece : (Text.pieces "parsed -r; sed -r p x | sed -r q\r\n".toList)[0]? =
      some "parsed -r; sed -r p x | sed -r q\r\n".toList := by
    decide +kernel
  have hf : extendedSed.findingOn? (.ofString "script.sh") 1
      "parsed -r; sed -r p x | sed -r q".toList = some sedCall := by
    decide +kernel
  exact ⟨hpiece, hf, Catalog.get_mem_rules (by simp [Catalog.definitions]) (by decide +kernel),
    by decide +kernel,
    fixText_findingOn (by decide +kernel) (by decide +kernel) hpiece hf ∅ (fun _ => .ok ())
      (.ofString "script.sh")⟩

/-- **A match inside a word is lost at the cut.** On the whole line it is replaced, but the text
from the finding on has no match: the finding is left alone as if the line would not change. -/
theorem fixText_insideWord :
    insideWord.findingOn? (.ofString "script.sh") 1 "cab".toList =
        some (insideWord.finding "cab" 2 "ab") ∧
      insideWord.pattern.replaceAll "cab".toList "c".toList = "cc".toList ∧
      fixText ∅ (fun _ => .ok ()) (.ofString "script.sh") "cab\n".toList
          [insideWord.finding "cab" 2 "ab"] =
        .ok {
          path := .ofString "script.sh"
          content := "cab\n".toList
          applied := []
          unresolved := [(insideWord.finding "cab" 2 "ab").unresolved .sameReplacement]
          candidate := none
          rejection := none } := by
  decide +kernel

end Rule

end GnuLint
