import GnuLint.Proofs.Finding.Scan
import GnuLint.Proofs.Text.LineEndings

/-!
# Where findings stand

A finding is a line number and a column, and whoever fixes it has nothing else to go by. So
the number has to be that of the line the fix will look at, the line has to be the body that
the fix will work on, to the last character, and the column has to lead to what was found,
counted in bytes and never into the middle of a character. All of this is
`GnuLint.Finding.StandsIn`, and every finding in a text has it
(`GnuLint.RuleSet.scanText_standsIn`).

The same findings come of the bytes of a file, which are cut into lines before they are
decoded (`GnuLint.RuleSet.scanBytes_ofText`).
-/

namespace GnuLint

/-- **A finding stands in a text**: on a line that the text has, with the body of that line,
and at a column where the text that was found begins. -/
structure Finding.StandsIn (f : Finding) (text : Text) : Prop where
  /-- Lines are counted from one. -/
  line_pos : 1 ≤ f.line
  /-- The text has the line. -/
  line_le : f.line ≤ (Text.lines text).length
  /-- What the finding shows is the body of that piece of the text. -/
  content_eq : (Text.pieces text)[f.line - 1]?.map Text.body = some f.content
  /-- Columns are counted from one. -/
  column_pos : 1 ≤ f.column
  /-- As many bytes on as the offset says, the text that was found begins. -/
  cutAt?_eq : ∃ before after,
    Text.cutAt? f.content f.offset = some (before, f.matched ++ after)

namespace Finding

variable {f : Finding} {r : Rule} {file : Path} {number : Nat} {line : Text}

/-- **The line of a finding is cut where the occurrence begins** that it shows: its offset is
the number of bytes before. -/
theorem Shows.exists_cutAt? (h : f.Shows r file number line) :
    ∃ o, r.pattern.find? line = some o ∧ f.matched = o.matched ∧
      Text.cutAt? f.content f.offset = some (o.before, o.matched ++ o.after) := by
  obtain ⟨o, ho, hcolumn, hmatched⟩ := h.occurrence
  have hline := Pattern.append_find? ho
  have hoffset : f.offset = Text.byteLength o.before := by
    rw [offset, hcolumn]
    simp
  refine ⟨o, ho, hmatched, ?_⟩
  rw [h.content_eq, hoffset, ← hline, List.append_assoc]
  exact Text.cutAt?_byteLength o.before (o.matched ++ o.after)

theorem Shows.cutAt?_eq (h : f.Shows r file number line) :
    ∃ before after, Text.cutAt? f.content f.offset = some (before, f.matched ++ after) := by
  obtain ⟨o, -, hmatched, hcut⟩ := h.exists_cutAt?
  rw [hmatched]
  exact ⟨o.before, o.after, hcut⟩

theorem Shows.column_pos (h : f.Shows r file number line) : 1 ≤ f.column := by
  obtain ⟨o, -, hcolumn, -⟩ := h.occurrence
  omega

end Finding

namespace RuleSet

variable {s : RuleSet} {file : Path} {text : Text} {f : Finding}

/-- **Every finding in a text stands in it.** -/
theorem standsIn_of_mem_scanText (h : f ∈ s.scanText file text) : f.StandsIn text := by
  obtain ⟨i, line, hline, -, hf⟩ := mem_findingsFrom.mp h
  obtain ⟨-, r, -, -, hfound⟩ := mem_findingsOn.mp hf
  have hshows := Rule.shows_of_findingOn? hfound
  have hnumber : f.line = 1 + i := hshows.line_eq
  have hlt : i < (Text.lines text).length := (List.getElem?_eq_some_iff.mp hline).1
  have hindex : f.line - 1 = i := by omega
  refine ⟨by omega, by omega, ?_, hshows.column_pos, hshows.cutAt?_eq⟩
  rw [hindex, hshows.content_eq, ← List.getElem?_map]
  exact hline

/-! ### Findings in bytes -/

/-- Lines none of which fails to be read give the findings in the text. -/
theorem scanReads_lines {ε : Type} (s : RuleSet) (file : Path) (text : Text) :
    (s.scanReads file ((Text.lines text).map .ok) : Except (ScanError ε) (List Finding)) =
      .ok (s.scanText file text) := by
  rw [scanReads, readAll_map_ok]
  rfl

/-- **The bytes of a text give the findings in the text.** -/
theorem scanBytes_ofText {ε : Type} (s : RuleSet) (file : Path) (cause : ε) (text : Text) :
    s.scanBytes file cause (Bytes.ofText text) = .ok (s.scanText file text) :=
  calc s.scanBytes file cause (Bytes.ofText text)
      = s.scanReads file ((Text.lines text).map .ok) := by
        rw [scanBytes, Bytes.pieces_ofText, Text.lines, List.map_map, List.map_map]
        refine congrArg (s.scanReads file) (List.map_congr_left fun piece _ => ?_)
        simp only [Function.comp_apply, Bytes.toText?_ofText]
    _ = .ok (s.scanText file text) := s.scanReads_lines file text

/-- **Scanning and fixing agree on lines and on positions.** The lines that line endings
tell are the bodies that are fixed, and they are the lines that are scanned; every finding
stands in the text; and the bytes of the text give the same findings. -/
theorem scanText_standsIn (s : RuleSet) (file : Path) (text : Text) :
    (∀ lines, Text.AreLines text lines ↔ lines = (Text.pieces text).map Text.body) ∧
      (∀ (ε : Type) (lines : List Text), Text.AreLines text lines →
        (s.scanReads file (lines.map .ok) : Except (ScanError ε) (List Finding)) =
          .ok (s.scanText file text)) ∧
      (∀ f ∈ s.scanText file text, f.StandsIn text) ∧
      ∀ (ε : Type) (cause : ε),
        s.scanBytes file cause (Bytes.ofText text) = .ok (s.scanText file text) := by
  refine ⟨fun lines => Text.areLines_iff, fun ε lines hlines => ?_,
    fun f hf => standsIn_of_mem_scanText hf, fun ε cause => s.scanBytes_ofText file cause text⟩
  rw [Text.areLines_iff.mp hlines]
  exact s.scanReads_lines file text

end RuleSet

end GnuLint
