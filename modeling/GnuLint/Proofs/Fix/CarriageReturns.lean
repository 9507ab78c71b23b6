import GnuLint.Proofs.Fix.FixedLines
import GnuLint.Proofs.Fix.FreshFindings
import GnuLint.Proofs.Text.Returns

/-!
# Scripts with carriage returns

Some scripts come with a carriage return before each newline. The carriage returns belong to
the terminators, which neither a scan nor a fix looks at, so the same is found in such a
script, at the same places, and fixing it makes of it what fixing makes of the script without
them, carriage returns put back (`GnuLint.fixText_withReturns`).

What a template puts into a line must have no newline for that: it would come without a
carriage return. A carriage return in a template is of no account, as it makes no line.
-/

namespace GnuLint

open Text (withReturns withReturns_append withReturns_flatten withReturns_of_notMem)

/-! ### Lines without newlines -/

/-- **A rule puts no newline in** if its template has none. -/
def Rule.PutsNoNewline (r : Rule) : Prop := ∀ t ∈ r.template, '\n' ∉ t.toList

instance (r : Rule) : Decidable r.PutsNoNewline :=
  inferInstanceAs (Decidable (∀ t ∈ r.template, '\n' ∉ t.toList))

variable {registry : Registry} {fs : List Finding}

/-- A line without newlines is fixed to a line without newlines. -/
theorem Finding.newline_notMem_of_attempt {f : Finding} {line fixed : Text}
    (hregistry : registry.KeepsLines) (hrule : f.rule.PutsNoNewline) (hline : '\n' ∉ line)
    (h : f.attempt registry line = .ok (.ok fixed)) : '\n' ∉ fixed := by
  rcases cases_of_attempt h with ⟨-, template, start, tail, htemplate, hcut, -, rfl⟩ |
    ⟨-, rewrite, hrewrite, houtcome, -⟩
  · rw [eq_append_of_cut? hcut, List.mem_append, not_or] at hline
    rw [List.mem_append, not_or]
    refine ⟨hline.1, fun hmem => ?_⟩
    rcases Pattern.mem_of_mem_replaceFrom hmem with htail | hnew
    · exact hline.2 htail
    · exact hrule template htemplate hnew
  · exact mt (hregistry _ _ hrewrite _ _ _ houtcome).newline hline

theorem newline_notMem_of_fixLine {body : Text} {part : FixedPart Text}
    (hregistry : registry.KeepsLines) (hrules : ∀ f ∈ fs, f.rule.PutsNoNewline)
    (hbody : '\n' ∉ body) (h : fixLine registry fs body = .ok part) : '\n' ∉ part.text := by
  induction fs generalizing body part with
  | nil =>
    rw [← Except.ok.inj h]
    exact hbody
  | cons f fs ih =>
    obtain ⟨hf, hfs⟩ := List.forall_mem_cons.mp hrules
    rcases fixLine_cons_cases h with ⟨fixed, rest, hfixed, hrest, rfl⟩ |
      ⟨reason, rest, -, hrest, rfl⟩
    · have hnone := ih hfs (Finding.newline_notMem_of_attempt hregistry hf hbody hfixed) hrest
      exact hnone
    · have hnone := ih hfs hbody hrest
      exact hnone

/-! ### Carriage returns in what fixing makes -/

/-- A stretch of a script with something done to its text, and the same records. -/
def FixedPart.map {α β : Type} (g : α → β) (part : FixedPart α) : FixedPart β :=
  { part with text := g part.text }

/-- **Pieces are fixed in the same way with carriage returns as without.** The induction is on
the pieces: the body of each is the same, and its fixed body has no newline, so that the
terminator is where a carriage return belongs. -/
theorem fixPieces_withReturns (hregistry : registry.KeepsLines)
    (hrules : ∀ f ∈ fs, f.rule.PutsNoNewline) (number : Nat) {ps : List Text}
    (hps : ∀ piece ∈ ps, '\n' ∉ piece.dropLast ∧ '\r' ∉ piece) :
    fixPieces registry fs number (ps.map withReturns) =
      (fixPieces registry fs number ps).map (FixedPart.map (List.map withReturns)) := by
  induction ps generalizing number with
  | nil => rfl
  | cons piece ps ih =>
    obtain ⟨⟨hinside, hreturn⟩, hmore⟩ := List.forall_mem_cons.mp hps
    obtain ⟨hbody, hterminator⟩ := Text.parts_withReturns hinside hreturn
    rw [List.map_cons, fixPieces, fixPieces, hbody, hterminator, ih (number + 1) hmore]
    cases hline : fixLine registry (Findings.onLine number fs) (Text.body piece) with
    | error fault => rfl
    | ok line =>
      cases fixPieces registry fs (number + 1) ps with
      | error fault => rfl
      | ok rest =>
        have hnone : '\n' ∉ line.text :=
          newline_notMem_of_fixLine hregistry (fun f hf => hrules f (List.mem_filter.mp hf).1)
            (Text.terminates_of_inside hinside).newline_notMem hline
        have hpiece : line.text ++ withReturns (Text.terminator piece) =
            withReturns (line.text ++ Text.terminator piece) := by
          rw [withReturns_append, withReturns_of_notMem hnone]
        simp only [bind, Except.bind, pure, Except.pure, Except.map, FixedPart.map,
          List.map_cons, hpiece]

theorem fixUnchecked_withReturns (hregistry : registry.KeepsLines)
    (hrules : ∀ f ∈ fs, f.rule.PutsNoNewline) {text : Text} (htext : '\r' ∉ text) :
    fixUnchecked registry (withReturns text) fs =
      (fixUnchecked registry text fs).map (FixedPart.map withReturns) := by
  have hrules' : ∀ f ∈ Findings.inOrder fs, f.rule.PutsNoNewline :=
    fun f hf => hrules f ((Findings.perm_inOrder fs).mem_iff.mp hf)
  have hps : ∀ piece ∈ Text.pieces text, '\n' ∉ piece.dropLast ∧ '\r' ∉ piece :=
    fun piece hpiece => ⟨(Text.isCut_pieces text).inside hpiece,
      Text.return_notMem_of_mem_pieces htext hpiece⟩
  rw [fixUnchecked, fixUnchecked, Text.pieces_withReturns,
    fixPieces_withReturns hregistry hrules' 1 hps, List.length_map]
  cases fixPieces registry (Findings.inOrder fs) 1 (Text.pieces text) with
  | error fault => rfl
  | ok fixed =>
    simp only [bind, Except.bind, pure, Except.pure, Except.map, FixedPart.map,
      withReturns_flatten]

namespace FixResult

/-- **The result with carriage returns** in its texts, and the same records. -/
def withReturns (r : FixResult) : FixResult :=
  { r with content := Text.withReturns r.content, candidate := r.candidate.map Text.withReturns }

/-- A validator that does not see carriage returns gives the same judgement. -/
theorem judge_withReturns {validator : Validator}
    (hvalidator : ∀ t, validator (Text.withReturns t) = validator t) (path : Path) (text : Text)
    (fixed : FixedPart Text) :
    judge validator path (Text.withReturns text) (fixed.map Text.withReturns) =
      (judge validator path text fixed).withReturns := by
  have happlied : (fixed.map Text.withReturns).applied = fixed.applied := rfl
  have hjudged : validator (fixed.map Text.withReturns).text = validator fixed.text :=
    hvalidator fixed.text
  rcases judge_cases validator path text fixed with
    ⟨hnil, hjudge⟩ | ⟨hsome, hok, hjudge⟩ | ⟨rejection, hsome, hbad, hjudge⟩
  · rw [hjudge, judge, happlied, if_pos (List.isEmpty_iff.mpr hnil)]
    rfl
  · rw [hjudge, judge, happlied, if_neg (mt List.isEmpty_iff.mp hsome), hjudged, hok]
    rfl
  · rw [hjudge, judge, happlied, if_neg (mt List.isEmpty_iff.mp hsome), hjudged, hbad]
    rfl

end FixResult

/-- **A text with carriage returns is fixed to the fixed text with carriage returns**, with the
same records, if no newline is put into a line and the validator does not see them. -/
theorem fixText_withReturns (hregistry : registry.KeepsLines)
    (hrules : ∀ f ∈ fs, f.rule.PutsNoNewline) (validator : Validator)
    (hvalidator : ∀ t, validator (withReturns t) = validator t) (path : Path) {text : Text}
    (htext : '\r' ∉ text) :
    fixText registry validator path (withReturns text) fs =
      (fixText registry validator path text fs).map FixResult.withReturns := by
  rw [fixText, fixText, fixUnchecked_withReturns hregistry hrules htext]
  cases fixUnchecked registry text fs with
  | error fault => rfl
  | ok fixed =>
    simp only [bind, Except.bind, pure, Except.pure, Except.map,
      FixResult.judge_withReturns hvalidator]

namespace RuleSet

/-- The same is found in a text with carriage returns as without. -/
theorem scanText_withReturns (s : RuleSet) (file : Path) {text : Text} (htext : '\r' ∉ text) :
    s.scanText file (withReturns text) = s.scanText file text := by
  rw [scanText, scanText, Text.lines_withReturns htext]

/-- **Carriage returns change neither what is found nor how it is fixed.** The findings in a
text are those in the text with carriage returns; and whichever of them are fixed, if their
templates have no newline, there is a result either way, with the same records, and one is the
other one with carriage returns. -/
theorem scanText_fixText_withReturns (s : RuleSet) (file path : Path) {text : Text}
    (htext : '\r' ∉ text) :
    s.scanText file (withReturns text) = s.scanText file text ∧
      ∀ fs : List Finding, fs.Sublist (s.scanText file text) →
        (∀ f ∈ fs, f.rule.PutsNoNewline) →
        ∃ result result',
          fixText .builtin (fun _ => .ok ()) path text fs = .ok result ∧
          fixText .builtin (fun _ => .ok ()) path (withReturns text) fs = .ok result' ∧
          result'.content = withReturns result.content ∧
          result'.applied = result.applied ∧ result'.unresolved = result.unresolved := by
  refine ⟨scanText_withReturns s file htext, fun fs hfs hrules => ?_⟩
  obtain ⟨result, hresult, -⟩ := fixText_of_standsIn Registry.keepsStart_builtin
    (standsIn_of_sublist hfs) (fun _ => .ok ()) path
  have hreturns := fixText_withReturns Registry.keepsLines_builtin hrules (fun _ => .ok ())
    (fun _ => rfl) path htext
  rw [hresult] at hreturns
  exact ⟨result, result.withReturns, hresult, hreturns, rfl, rfl, rfl⟩

/-- Four lines, one of them empty and the last one without a newline. -/
def fourLines : Text := "é; grep -P '\\d' ab\nls\n\nab".toList

/-- Four findings on two of them: all are fixed, by templates and by a rewrite. -/
theorem scanText_fixText_withReturns_fourLines :
    (forOneLine.scanText (.ofString "script.sh") fourLines).map Finding.line = [1, 1, 1, 4] ∧
      '\r' ∉ fourLines ∧
      (∀ f ∈ forOneLine.scanText (.ofString "script.sh") fourLines, f.rule.PutsNoNewline) ∧
      forOneLine.scanText (.ofString "script.sh") (withReturns fourLines) =
        forOneLine.scanText (.ofString "script.sh") fourLines ∧
      ∃ result result',
        fixText .builtin (fun _ => .ok ()) (.ofString "script.sh") fourLines
          (forOneLine.scanText (.ofString "script.sh") fourLines) = .ok result ∧
        fixText .builtin (fun _ => .ok ()) (.ofString "script.sh") (withReturns fourLines)
          (forOneLine.scanText (.ofString "script.sh") fourLines) = .ok result' ∧
        result'.content = withReturns result.content ∧
        result'.applied = result.applied ∧ result'.unresolved = result.unresolved := by
  have htext : '\r' ∉ fourLines := by decide +kernel
  have hrules : ∀ f ∈ forOneLine.scanText (.ofString "script.sh") fourLines,
      f.rule.PutsNoNewline := by decide +kernel
  obtain ⟨hfound, hfixed⟩ := scanText_fixText_withReturns forOneLine (.ofString "script.sh")
    (.ofString "script.sh") htext
  exact ⟨by decide +kernel, htext, hrules, hfound, hfixed _ (List.Sublist.refl _) hrules⟩

end RuleSet

end GnuLint
