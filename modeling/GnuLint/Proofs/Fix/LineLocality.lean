import GnuLint.Proofs.Fix.Judgement
import GnuLint.Proofs.Text.Pieces

/-!
# Fixing a script line by line

Fixing looks at the body of one line at a time and puts the terminators back as they
were. The body of a line becomes what it becomes on its own, from the findings on it and
nothing else (`GnuLint.fixBody`), and the fixes applied to it lead from the body there was
to the body there is, each taking up where the one before left off
(`GnuLint.Applied.Chain`). The whole of it is `GnuLint.fixText_isLineLocal`.

Two things are to be seen. Findings are put in order for all lines at once, but the order
on a line is the one that its findings have among themselves
(`GnuLint.Findings.onLine_inOrder`); and a fix that is applied changes the line
(`GnuLint.Finding.ne_of_attempt`).
-/

namespace GnuLint

/-! ### The order on a line -/

namespace Findings

/-- One finding does not come before another one if it is on a later line, or on the same
line and no further to the right. -/
theorem isBefore_eq_false_iff {f g : Finding} :
    isBefore g f = false ↔ f.line < g.line ∨ (f.line = g.line ∧ g.column ≤ f.column) := by
  rw [← Bool.not_eq_true, isBefore, Bool.or_eq_true, Bool.and_eq_true, decide_eq_true_eq,
    decide_eq_true_eq, beq_iff_eq]
  omega

theorem line_le_of_isBefore {f g : Finding} (h : isBefore g f = false) : f.line ≤ g.line := by
  rcases isBefore_eq_false_iff.mp h with hlt | ⟨heq, -⟩
  · exact Nat.le_of_lt hlt
  · exact Nat.le_of_eq heq

theorem pairwise_insertInOrder {f : Finding} {fs : List Finding}
    (h : fs.Pairwise fun g g' => isBefore g' g = false) :
    (insertInOrder f fs).Pairwise fun g g' => isBefore g' g = false := by
  induction fs with
  | nil => exact List.pairwise_singleton _ f
  | cons g gs ih =>
    obtain ⟨hg, hgs⟩ := List.pairwise_cons.mp h
    rw [insertInOrder]
    split
    · rename_i hbefore
      have hle : isBefore f g = false := by
        rw [isBefore, Bool.or_eq_true, Bool.and_eq_true, decide_eq_true_eq,
          decide_eq_true_eq, beq_iff_eq] at hbefore
        rw [isBefore_eq_false_iff]
        omega
      refine List.pairwise_cons.mpr ⟨fun g' hg' => ?_, ih hgs⟩
      rcases List.mem_cons.mp ((perm_insertInOrder f gs).mem_iff.mp hg') with rfl | hmem
      · exact hle
      · exact hg g' hmem
    · rename_i hafter
      rw [Bool.not_eq_true] at hafter
      refine List.pairwise_cons.mpr ⟨fun g' hg' => ?_, h⟩
      rcases List.mem_cons.mp hg' with rfl | hmem
      · exact hafter
      · -- what is not before `g` is not before `f` either
        have hlater := hg g' hmem
        rw [isBefore_eq_false_iff] at hafter hlater ⊢
        omega

/-- **Findings in order come line by line**, and on a line from the right to the left. -/
theorem pairwise_inOrder (fs : List Finding) :
    (inOrder fs).Pairwise fun g g' => isBefore g' g = false := by
  induction fs with
  | nil => exact List.Pairwise.nil
  | cons f fs ih => exact pairwise_insertInOrder ih

theorem onLine_cons_of_eq {n : Nat} {f : Finding} (h : f.line = n) (fs : List Finding) :
    onLine n (f :: fs) = f :: onLine n fs :=
  List.filter_cons_of_pos (by simpa using h)

theorem onLine_cons_of_ne {n : Nat} {f : Finding} (h : f.line ≠ n) (fs : List Finding) :
    onLine n (f :: fs) = onLine n fs :=
  List.filter_cons_of_neg (by simpa using h)

theorem onLine_insertInOrder_of_ne {n : Nat} {f : Finding} (h : f.line ≠ n) (fs : List Finding) :
    onLine n (insertInOrder f fs) = onLine n fs := by
  induction fs with
  | nil => exact onLine_cons_of_ne h []
  | cons g gs ih =>
    rw [insertInOrder]
    split
    · by_cases hg : g.line = n
      · rw [onLine_cons_of_eq hg, onLine_cons_of_eq hg, ih]
      · rw [onLine_cons_of_ne hg, onLine_cons_of_ne hg, ih]
    · exact onLine_cons_of_ne h (g :: gs)

theorem onLine_insertInOrder_of_eq {n : Nat} {f : Finding} (h : f.line = n) {fs : List Finding}
    (hfs : fs.Pairwise fun g g' => g.line ≤ g'.line) :
    onLine n (insertInOrder f fs) = insertInOrder f (onLine n fs) := by
  induction fs with
  | nil => exact onLine_cons_of_eq h []
  | cons g gs ih =>
    obtain ⟨hg, hgs⟩ := List.pairwise_cons.mp hfs
    by_cases hline : g.line = n
    · rw [onLine_cons_of_eq hline, insertInOrder, insertInOrder]
      split
      · rw [onLine_cons_of_eq hline, ih hgs]
      · rw [onLine_cons_of_eq h, onLine_cons_of_eq hline]
    · rw [onLine_cons_of_ne hline, insertInOrder]
      split
      · rw [onLine_cons_of_ne hline, ih hgs]
      · rename_i hafter
        -- the findings from here on are on later lines
        have hlater : onLine n gs = [] := by
          refine List.filter_eq_nil_iff.mpr fun g' hg' => ?_
          have hle := hg g' hg'
          simp only [isBefore, Bool.or_eq_true, decide_eq_true_eq, Bool.and_eq_true,
            beq_iff_eq, not_or] at hafter
          simp only [decide_eq_true_eq]
          omega
        rw [onLine_cons_of_eq h, onLine_cons_of_ne hline, hlater]
        rfl

/-- **The findings on a line are in the order that they have among themselves.** -/
theorem onLine_inOrder (n : Nat) (fs : List Finding) :
    onLine n (inOrder fs) = inOrder (onLine n fs) := by
  induction fs with
  | nil => rfl
  | cons f fs ih =>
    rw [inOrder]
    by_cases h : f.line = n
    · have hlines := (pairwise_inOrder fs).imp line_le_of_isBefore
      rw [onLine_insertInOrder_of_eq h hlines, ih, onLine_cons_of_eq h, inOrder]
    · rw [onLine_insertInOrder_of_ne h, ih, onLine_cons_of_ne h]

end Findings

/-! ### Fixes that change a line -/

namespace Finding

variable {f : Finding} {registry : Registry} {line fixed : Text}

theorem changed_eq_ok_iff {reason : Reason} {new : Text} :
    changed reason line new = .ok fixed ↔ new ≠ line ∧ fixed = new := by
  rw [changed]
  by_cases h : new = line
  · simp [h]
  · simp [h, eq_comm]

theorem eq_append_of_cut? {start tail : Text} (h : f.cut? line = some (start, tail)) :
    line = start ++ tail :=
  (Text.eq_append_of_cutAt? (Option.filter_eq_some_iff.mp h).1).1

/-- **The two ways in which a finding is fixed**: by a template, from the finding on, or by the
rewrite that its rule names. Something changes either way. -/
theorem cases_of_attempt (h : f.attempt registry line = .ok (.ok fixed)) :
    (f.rule.strategy = .replace ∧ ∃ template start tail, f.rule.template = some template ∧
        f.cut? line = some (start, tail) ∧
        f.rule.pattern.replaceAll tail template.toList ≠ tail ∧
        fixed = start ++ f.rule.pattern.replaceAll tail template.toList) ∨
      (f.rule.strategy = .transform ∧
        ∃ rewrite, registry.get? f.rule.rewriteName = some rewrite ∧
          rewrite line f.offset = .ok (.rewritten fixed) ∧ fixed ≠ line) := by
  rw [attempt] at h
  split at h
  · rename_i hstrategy
    have hreplace := Except.ok.inj h
    rw [replace] at hreplace
    split at hreplace
    · cases hreplace
    split at hreplace
    · cases hreplace
    rename_i template htemplate _ start tail hcut
    obtain ⟨new, hnew, rfl⟩ := map_eq_ok_iff.mp hreplace
    obtain ⟨hne, rfl⟩ := changed_eq_ok_iff.mp hnew
    exact Or.inl ⟨hstrategy, template, start, tail, htemplate, hcut, hne, rfl⟩
  · rename_i hstrategy
    rw [transform] at h
    split at h
    · cases h
    rename_i rewrite hrewrite
    obtain ⟨outcome, houtcome, hfixed⟩ := bind_eq_ok_iff.mp h
    cases outcome with
    | rewritten new =>
      obtain ⟨hne, rfl⟩ := changed_eq_ok_iff.mp (Except.ok.inj hfixed)
      exact Or.inr ⟨hstrategy, rewrite, hrewrite, houtcome, hne⟩
    | declined reason => cases hfixed
  · cases h
  · cases h

/-- **A fix that is applied changes the line.** -/
theorem ne_of_attempt (h : f.attempt registry line = .ok (.ok fixed)) : fixed ≠ line := by
  rcases cases_of_attempt h with ⟨-, template, start, tail, -, hcut, hne, rfl⟩ |
    ⟨-, rewrite, -, -, hne⟩
  · rw [eq_append_of_cut? hcut]
    exact mt List.append_cancel_left hne
  · exact hne

end Finding

/-! ### One line -/

/-- **Fixes that make one line out of another**, each of them out of what the one before
left. -/
inductive Applied.Chain : (before : Text) → List Applied → (after : Text) → Prop
  /-- Without a fix, the line stays what it is. -/
  | nil (line : Text) : Chain line [] line
  /-- A fix changes the line, and the others go on from there. -/
  | cons {a : Applied} {rest : List Applied} {after : Text} :
    a.fixed ≠ a.original → Chain a.fixed rest after → Chain a.original (a :: rest) after

/-- **What becomes of the body of a line**, given the findings on it. -/
def fixBody (registry : Registry) (fs : List Finding) (body : Text) : Except Fault Text :=
  (fixLine registry (Findings.inOrder fs) body).map FixedPart.text

variable {registry : Registry} {fs : List Finding} {body : Text} {part : FixedPart Text}

/-- **The two ways in which the first finding on a line ends**: it is fixed, and the others
go on from there, or it is left alone. -/
theorem fixLine_cons_cases {f : Finding} (h : fixLine registry (f :: fs) body = .ok part) :
    (∃ fixed rest, f.attempt registry body = .ok (.ok fixed) ∧
        fixLine registry fs fixed = .ok rest ∧
        part = ⟨rest.text, f.applied body fixed :: rest.applied, rest.unresolved⟩) ∨
      ∃ reason rest, f.attempt registry body = .ok (.error reason) ∧
        fixLine registry fs body = .ok rest ∧
        part = ⟨rest.text, rest.applied, f.unresolved reason :: rest.unresolved⟩ := by
  obtain ⟨outcome, houtcome, hrest⟩ := bind_eq_ok_iff.mp h
  cases outcome with
  | ok fixed =>
    obtain ⟨rest, hfixed, hpart⟩ := bind_eq_ok_iff.mp hrest
    exact Or.inl ⟨fixed, rest, houtcome, hfixed, (Except.ok.inj hpart).symm⟩
  | error reason =>
    obtain ⟨rest, hfixed, hpart⟩ := bind_eq_ok_iff.mp hrest
    exact Or.inr ⟨reason, rest, houtcome, hfixed, (Except.ok.inj hpart).symm⟩

/-- **The fixes on a line form a chain.** -/
theorem chain_of_fixLine (h : fixLine registry fs body = .ok part) :
    Applied.Chain body part.applied part.text := by
  induction fs generalizing body part with
  | nil =>
    rw [← Except.ok.inj h]
    exact .nil body
  | cons f fs ih =>
    rcases fixLine_cons_cases h with ⟨fixed, rest, hfixed, hrest, rfl⟩ |
      ⟨reason, rest, -, hrest, rfl⟩
    · exact .cons (a := f.applied body fixed) (Finding.ne_of_attempt hfixed) (ih hrest)
    · have hchain := ih hrest
      exact hchain

/-- The fixes on a line are fixes of findings on it. -/
theorem line_of_fixLine {n : Nat} (hfs : ∀ f ∈ fs, f.line = n)
    (h : fixLine registry fs body = .ok part) : ∀ a ∈ part.applied, a.line = n := by
  induction fs generalizing body part with
  | nil =>
    rw [← Except.ok.inj h]
    simp
  | cons f fs ih =>
    obtain ⟨hf, hfs⟩ := List.forall_mem_cons.mp hfs
    rcases fixLine_cons_cases h with ⟨fixed, rest, -, hrest, rfl⟩ |
      ⟨reason, rest, -, hrest, rfl⟩
    · exact List.forall_mem_cons.mpr ⟨hf, ih hfs hrest⟩
    · have hline := ih hfs hrest
      exact hline

/-! ### All lines -/

/-- The pieces of a text are fixed one after the other. -/
theorem fixPieces_cons {number : Nat} {piece : Text} {pieces : List Text}
    {part : FixedPart (List Text)}
    (h : fixPieces registry fs number (piece :: pieces) = .ok part) :
    ∃ line rest, fixLine registry (Findings.onLine number fs) (Text.body piece) = .ok line ∧
      fixPieces registry fs (number + 1) pieces = .ok rest ∧
      part = ⟨(line.text ++ Text.terminator piece) :: rest.text, line.applied ++ rest.applied,
        line.unresolved ++ rest.unresolved⟩ := by
  obtain ⟨line, hline, hmore⟩ := bind_eq_ok_iff.mp h
  obtain ⟨rest, hrest, hpart⟩ := bind_eq_ok_iff.mp hmore
  exact ⟨line, rest, hline, hrest, (Except.ok.inj hpart).symm⟩

section Lines

variable {here later : List Applied} {n : Nat}

/-- The fixes on a line are those on it, if all others are on later lines. -/
theorem filter_here (hhere : ∀ a ∈ here, a.line = n) (hlater : ∀ a ∈ later, n < a.line) :
    (here ++ later).filter (·.line = n) = here := by
  rw [List.filter_append, List.filter_eq_self.mpr (by simpa using hhere),
    List.filter_eq_nil_iff.mpr, List.append_nil]
  intro a ha
  have hlt := hlater a ha
  simp only [decide_eq_true_eq]
  omega

/-- The fixes on a line are none of those on the lines before. -/
theorem filter_later (hhere : ∀ a ∈ here, a.line = n) {m : Nat} (hm : n < m) :
    (here ++ later).filter (·.line = m) = later.filter (·.line = m) := by
  rw [List.filter_append, List.filter_eq_nil_iff.mpr, List.nil_append]
  intro a ha
  have hline := hhere a ha
  simp only [decide_eq_true_eq]
  omega

end Lines

/-- **The pieces of a text are fixed one by one**: `bodies` are what becomes of their
bodies, and the fixes are those on their lines. -/
structure FixesPieces (registry : Registry) (fs : List Finding) (number : Nat)
    (pieces bodies : List Text) (applied : List Applied) : Prop where
  /-- Each piece has a new body. -/
  length_eq : bodies.length = pieces.length
  /-- It depends on the old one and the findings on the line. -/
  fixBody_eq {i : Nat} {piece body : Text} : pieces[i]? = some piece → bodies[i]? = some body →
    fixBody registry (Findings.onLine (number + i) fs) (Text.body piece) = .ok body
  /-- The fixes on the line lead from the old one to it. -/
  chain {i : Nat} {piece body : Text} : pieces[i]? = some piece → bodies[i]? = some body →
    Applied.Chain (Text.body piece) (applied.filter (·.line = number + i)) body
  /-- There are no other fixes. -/
  line_mem {a : Applied} : a ∈ applied → number ≤ a.line ∧ a.line < number + pieces.length

/-- The text that pieces make with new bodies. -/
def Text.withBodies (pieces bodies : List Text) : Text :=
  (List.zipWith (fun body piece => body ++ Text.terminator piece) bodies pieces).flatten

theorem fixesPieces_of_fixPieces {number : Nat} {pieces : List Text}
    {part : FixedPart (List Text)}
    (h : fixPieces registry (Findings.inOrder fs) number pieces = .ok part) :
    ∃ bodies, FixesPieces registry fs number pieces bodies part.applied ∧
      part.text.flatten = Text.withBodies pieces bodies := by
  induction pieces generalizing number part with
  | nil =>
    rw [← Except.ok.inj h]
    exact ⟨[], ⟨rfl, by simp, by simp, by simp⟩, rfl⟩
  | cons piece pieces ih =>
    obtain ⟨line, rest, hline, hrest, rfl⟩ := fixPieces_cons h
    obtain ⟨bodies, hbodies, htext⟩ := ih hrest
    have hhere : ∀ a ∈ line.applied, a.line = number := by
      refine line_of_fixLine (fun f hf => ?_) hline
      simpa using (List.mem_filter.mp hf).2
    rw [Findings.onLine_inOrder] at hline
    -- the fixes on this line come first, and all others have greater numbers
    refine ⟨line.text :: bodies, ⟨?_, ?_, ?_, ?_⟩, ?_⟩
    · rw [List.length_cons, hbodies.length_eq, List.length_cons]
    · rintro (_ | i) p body hp hbody
      · obtain rfl : piece = p := Option.some.inj hp
        obtain rfl : line.text = body := Option.some.inj hbody
        rw [fixBody, Nat.add_zero, hline]
        rfl
      · rw [← Nat.add_assoc, Nat.add_right_comm]
        exact hbodies.fixBody_eq hp hbody
    · rintro (_ | i) p body hp hbody
      · obtain rfl : piece = p := Option.some.inj hp
        obtain rfl : line.text = body := Option.some.inj hbody
        rw [Nat.add_zero, filter_here hhere fun a ha => (hbodies.line_mem ha).1]
        exact chain_of_fixLine hline
      · rw [← Nat.add_assoc, Nat.add_right_comm, filter_later hhere (by omega)]
        exact hbodies.chain hp hbody
    · intro a ha
      rw [List.length_cons]
      rcases List.mem_append.mp ha with ha | ha
      · have hnow := hhere a ha
        omega
      · have hlater := hbodies.line_mem ha
        omega
    · rw [List.flatten_cons, htext]
      rfl

/-- **The result of fixing a text is local to lines**: `bodies` are what becomes of the
bodies of its lines. -/
structure FixResult.IsLineLocal (result : FixResult) (registry : Registry)
    (validator : Validator) (text : Text) (fs : List Finding) (bodies : List Text) : Prop where
  /-- The body of a line depends on the body there was and the findings on the line, and
  the fixes on the line form a chain. -/
  fixes : FixesPieces registry fs 1 (Text.pieces text) bodies result.applied
  /-- If something is fixed, the candidate has the new bodies and the old terminators. -/
  candidate_eq : result.candidate =
    if result.applied = [] then none else some (Text.withBodies (Text.pieces text) bodies)
  /-- It is the candidate that the validator has judged. -/
  judged {candidate : Text} : result.candidate = some candidate →
    (validator candidate = .ok () ∧ result.rejection = none ∧ result.content = candidate) ∨
      ∃ rejection, validator candidate = .error rejection ∧
        result.rejection = some rejection ∧ result.content = text

/-- **Fixing a text is local to its lines and keeps their terminators.** The text is cut
after each newline, each piece falls into a body and a terminator, and only bodies are
fixed, each by itself. -/
theorem fixText_isLineLocal {registry : Registry} {validator : Validator} {path : Path}
    {text : Text} {fs : List Finding} {result : FixResult}
    (h : fixText registry validator path text fs = .ok result) :
    Text.IsCut text (Text.pieces text) ∧
      (∀ piece ∈ Text.pieces text, Text.body piece ++ Text.terminator piece = piece ∧
        Text.Terminates (Text.body piece) (Text.terminator piece)) ∧
      ∃ bodies, result.IsLineLocal registry validator text fs bodies := by
  have hcut := Text.isCut_pieces text
  refine ⟨hcut, fun piece hp => ⟨Text.body_append_terminator piece,
    Text.terminates_of_inside (hcut.inside hp)⟩, ?_⟩
  obtain ⟨fixed, hfixed, rfl⟩ := judge_of_fixText h
  obtain ⟨part, hpart, hwhole⟩ := bind_eq_ok_iff.mp hfixed
  obtain ⟨bodies, hbodies, htext⟩ := fixesPieces_of_fixPieces hpart
  have happlied : fixed.applied = part.applied := by rw [← Except.ok.inj hwhole]
  have hcandidate : fixed.text = Text.withBodies (Text.pieces text) bodies := by
    rw [← htext, ← Except.ok.inj hwhole]
  rw [← happlied] at hbodies
  refine ⟨bodies, ?_⟩
  rcases FixResult.judge_cases validator path text fixed with
    ⟨hnil, hjudge⟩ | ⟨hsome, hok, hjudge⟩ | ⟨rejection, hsome, hbad, hjudge⟩
  · rw [hjudge]
    exact ⟨hbodies, (if_pos hnil).symm, fun h => nomatch h⟩
  · rw [hjudge]
    refine ⟨hbodies, by rw [if_neg hsome, hcandidate], fun {candidate} h => ?_⟩
    obtain rfl : fixed.text = candidate := Option.some.inj h
    exact Or.inl ⟨hok, rfl, rfl⟩
  · rw [hjudge]
    refine ⟨hbodies, by rw [if_neg hsome, hcandidate], fun {candidate} h => ?_⟩
    obtain rfl : fixed.text = candidate := Option.some.inj h
    exact Or.inr ⟨rejection, hbad, rfl, rfl⟩

/-- The definition of a rule that replaces two letters by one. -/
def Definition.shortening : Definition where
  id := "shortening"
  name := "Two letters"
  pattern := "ab"
  strategy := some "replace"
  template := some "c"

/-- A finding of two letters on the first line of a script. -/
def Finding.shortening : Finding where
  rule := (Rule.ofDefinition .shortening).toOption.get (by decide +kernel)
  file := .ofString "script.sh"
  line := 1
  column := 3
  content := "x ab".toList
  matched := "ab".toList

/-- What fixing the finding gives. -/
def FixResult.shortening : FixResult where
  path := .ofString "script.sh"
  content := "x c\r\nab".toList
  applied := [⟨1, 3, "shortening", "x ab".toList, "x c".toList⟩]
  unresolved := []
  candidate := some "x c\r\nab".toList
  rejection := none

/-- The other line keeps the same letters, and the first one its terminator. -/
theorem fixText_isLineLocal_shortening :
    fixText ∅ (fun _ => .ok ()) (.ofString "script.sh") "x ab\r\nab".toList [.shortening] =
        .ok .shortening ∧
      ∃ bodies, FixResult.shortening.IsLineLocal ∅ (fun _ => .ok ()) "x ab\r\nab".toList
        [.shortening] bodies := by
  have h : fixText ∅ (fun _ => .ok ()) (.ofString "script.sh") "x ab\r\nab".toList
      [.shortening] = .ok .shortening := by
    decide +kernel
  exact ⟨h, (fixText_isLineLocal h).2.2⟩

end GnuLint
