import GnuLint.Proofs.Fix.LineLocality
import GnuLint.Proofs.Grep.Invocation
import GnuLint.Proofs.Pattern.Replacement
import GnuLint.Proofs.Text.Bodies

/-!
# The lines of a fixed text

A fix could join lines, split them, or turn their terminators into something else. It does
none of this if what it puts in is plain and what the rewrites make of a line fits in the
place of the line (`GnuLint.Rule.KeepsLines`, `GnuLint.Rewrite.KeepsLines`): then the lines of
the fixed text are the lines of the text one by one, and those without a fix are the same
(`GnuLint.FixResult.relines_of_fixText`). The rewrites that come with the program are of
this kind (`GnuLint.Registry.keepsLines_builtin`).
-/

namespace GnuLint

open Text (FitsIn)

/-! ### Fixes that keep lines -/

/-- **A rewrite keeps lines** if what it makes of a line fits in its place. -/
def Rewrite.KeepsLines (rewrite : Rewrite) : Prop :=
  ∀ line offset fixed, rewrite line offset = .ok (.rewritten fixed) → FitsIn fixed line

/-- Rewrites all of which keep lines. -/
def Registry.KeepsLines (registry : Registry) : Prop :=
  ∀ name rewrite, registry.get? name = some rewrite → rewrite.KeepsLines

/-- **A rule keeps lines** if what it puts in the place of matches is plain. -/
def Rule.KeepsLines (r : Rule) : Prop :=
  r.strategy = .replace → ∀ t, r.template = some t → Template.IsPlain t.toList

namespace Grep

/-- A call with a translated pattern fits in the place of the call. -/
theorem Invocation.fitsIn_spelling {call : Invocation} {pattern : Text}
    (h : toExtended call.quoted.pattern = .ok pattern) :
    FitsIn (call.spelling 'E' pattern) (call.spelling 'P' call.quoted.pattern) := by
  have hflag : FitsIn ['E'] ['P'] := ⟨by simp, by simp, by simp, by simp⟩
  have hquoted : FitsIn (call.quoted.quote :: pattern ++ [call.quoted.quote])
      (call.quoted.quote :: call.quoted.pattern ++ [call.quoted.quote]) := by
    refine ⟨fun hmem => ?_, fun hnil => ?_, id, fun hlast => ?_⟩
    · simp only [List.cons_append, List.mem_cons, List.mem_append, List.not_mem_nil,
        or_false] at hmem ⊢
      refine hmem.imp_right (Or.imp_left fun hpattern => ?_)
      -- the characters that a translation inserts are no newlines
      rcases List.mem_append.mp (subset_of_toExtended h hpattern) with hold | hnew
      · exact hold
      · exact absurd hnew (by decide)
    · cases hnil
    · rwa [List.getLast?_concat] at hlast ⊢
  have hflags : FitsIn ('E' :: call.flagsAfter) ('P' :: call.flagsAfter) :=
    hflag.append_right call.flagsAfter
  unfold spelling
  -- the word itself is of no account
  generalize "grep".toList = word
  rw [List.append_assoc _ (call.quoted.quote :: pattern),
    List.append_assoc _ (call.quoted.quote :: call.quoted.pattern)]
  exact (hquoted.append_left _).trans (((hflags.append_left _).append_right _).append_right _)

/-- **The rewrite of calls of grep keeps lines.** -/
theorem keepsLines_rewrite : Rewrite.KeepsLines rewrite := by
  intro line offset fixed h
  obtain ⟨before, call, after, pattern, -, hpattern, rfl, rfl⟩ := exists_call_of_rewrite h
  exact ((Invocation.fitsIn_spelling hpattern).append_left before).append_right after

end Grep

namespace Registry

/-- **The rewrites that come with the program keep lines.** -/
theorem keepsLines_builtin : builtin.KeepsLines := by
  intro name rewrite h
  obtain rfl := eq_rewrite_of_get?_builtin h
  exact Grep.keepsLines_rewrite

end Registry

namespace Finding

variable {f : Finding} {registry : Registry} {line fixed : Text}

/-- **What a finding is fixed to fits** in the place of the line. -/
theorem fitsIn_of_attempt (hregistry : registry.KeepsLines) (hrule : f.rule.KeepsLines)
    (h : f.attempt registry line = .ok (.ok fixed)) : FitsIn fixed line := by
  rcases cases_of_attempt h with ⟨hstrategy, template, start, tail, htemplate, hcut, -, rfl⟩ |
    ⟨-, rewrite, hrewrite, houtcome, -⟩
  · rw [eq_append_of_cut? hcut]
    have hplain := hrule hstrategy template htemplate
    exact (Pattern.fitsIn_replaceAll f.rule.pattern tail hplain).append_left start
  · exact hregistry _ _ hrewrite _ _ _ houtcome

end Finding

/-! ### Lines that are fixed -/

variable {registry : Registry} {fs : List Finding}

theorem fitsIn_of_fixLine {body : Text} {part : FixedPart Text} (hregistry : registry.KeepsLines)
    (hrules : ∀ f ∈ fs, f.rule.KeepsLines) (h : fixLine registry fs body = .ok part) :
    FitsIn part.text body := by
  induction fs generalizing body part with
  | nil =>
    rw [← Except.ok.inj h]
    exact FitsIn.refl body
  | cons f fs ih =>
    obtain ⟨hf, hfs⟩ := List.forall_mem_cons.mp hrules
    rcases fixLine_cons_cases h with ⟨fixed, rest, hfixed, hrest, rfl⟩ |
      ⟨reason, rest, -, hrest, rfl⟩
    · exact (ih hfs hrest).trans (Finding.fitsIn_of_attempt hregistry hf hfixed)
    · have hfits := ih hfs hrest
      exact hfits

/-- **The new body of a line fits** in the place of the old one. -/
theorem fitsIn_of_fixBody {body fixed : Text} (hregistry : registry.KeepsLines)
    (hrules : ∀ f ∈ fs, f.rule.KeepsLines) (h : fixBody registry fs body = .ok fixed) :
    FitsIn fixed body := by
  obtain ⟨part, hpart, rfl⟩ := map_eq_ok_iff.mp h
  exact fitsIn_of_fixLine hregistry
    (fun f hf => hrules f ((Findings.perm_inOrder fs).mem_iff.mp hf)) hpart

namespace Text

/-- A piece with a body that fits is a piece, and its body is found again. -/
theorem piece_fits {piece new : Text} (hne : piece ≠ []) (hinside : '\n' ∉ piece.dropLast)
    (hnew : FitsIn new (body piece)) :
    new ++ terminator piece ≠ [] ∧ '\n' ∉ (new ++ terminator piece).dropLast ∧
      (piece.getLast? = some '\n' → (new ++ terminator piece).getLast? = some '\n') ∧
      body (new ++ terminator piece) = new := by
  have hold := terminates_of_inside hinside
  have hpiece := body_append_terminator piece
  generalize terminator piece = t at hold hpiece ⊢
  have hterminates := hold.fits hnew
  refine ⟨fun hnil => ?_, ?_, fun hlast => ?_, body_of_terminates hterminates⟩
  · obtain ⟨hnew', hterminator⟩ := List.append_eq_nil_iff.mp hnil
    rw [hnew.nil hnew', hterminator] at hpiece
    exact hne hpiece.symm
  · cases hterminates with
    | returned hnew' => simpa using hnew'
    | newline hnew' => simpa using hnew'
    | unterminated hnew' => simpa using fun hmem => hnew' (List.dropLast_subset _ hmem)
  · rw [List.getLast?_append]
    rw [← hpiece, List.getLast?_append] at hlast
    cases hold with
    | returned => rfl
    | newline => rfl
    | unterminated hbody => exact absurd (List.mem_of_getLast? hlast) hbody

/-- A text with new bodies is cut where the text is, if they fit. -/
theorem isCut_withBodies {s : Text} {ps bodies : List Text} (hcut : IsCut s ps)
    (hfit : List.Forall₂ (fun new piece => FitsIn new (body piece)) bodies ps) :
    IsCut (withBodies ps bodies)
      (List.zipWith (fun new piece => new ++ terminator piece) bodies ps) := by
  induction hfit generalizing s with
  | nil => exact isCut_nil
  | @cons new piece bodies ps hnew hmore ih =>
    obtain ⟨-, hne, hinside, hends, hrest⟩ := isCut_cons_iff.mp hcut
    obtain ⟨hne', hinside', hlast, -⟩ := piece_fits hne hinside hnew
    refine isCut_cons_iff.mpr ⟨rfl, hne', hinside', ?_, ih hrest⟩
    rcases hends with hends | rfl
    · exact Or.inl (hlast hends)
    · cases hmore
      exact Or.inr rfl

/-- **The lines of a text with new bodies are these bodies**, if they fit. -/
theorem lines_withBodies {s : Text} {ps bodies : List Text} (hcut : IsCut s ps)
    (hfit : List.Forall₂ (fun new piece => FitsIn new (body piece)) bodies ps) :
    lines (withBodies ps bodies) = bodies := by
  rw [lines, pieces_eq_of_isCut (isCut_withBodies hcut hfit)]
  induction hfit generalizing s with
  | nil => rfl
  | @cons new piece bodies ps hnew hmore ih =>
    obtain ⟨-, hne, hinside, -, hrest⟩ := isCut_cons_iff.mp hcut
    obtain ⟨-, -, -, hbody⟩ := piece_fits hne hinside hnew
    rw [List.zipWith_cons_cons, List.map_cons, hbody, ih hrest]

end Text

/-! ### The result -/

/-- **The lines of a result are those of the text**, except for lines that were fixed, and
these fit in the place of the lines that they have been. -/
structure FixResult.Relines (result : FixResult) (text : Text) : Prop where
  length_eq : (Text.lines result.content).length = (Text.lines text).length
  same {i : Nat} : (∀ a ∈ result.applied, a.line ≠ i + 1) →
    (Text.lines result.content)[i]? = (Text.lines text)[i]?
  fits {i : Nat} {new old : Text} : (Text.lines result.content)[i]? = some new →
    (Text.lines text)[i]? = some old → FitsIn new old

/-- Two lists of one length have elements at the same places. -/
theorem getElem?_cases {α β : Type} {xs : List α} {ys : List β} (h : xs.length = ys.length)
    (i : Nat) : (xs[i]? = none ∧ ys[i]? = none) ∨ ∃ x y, xs[i]? = some x ∧ ys[i]? = some y := by
  rcases Nat.lt_or_ge i xs.length with hlt | hge
  · have hlt' : i < ys.length := by omega
    exact Or.inr ⟨_, _, List.getElem?_eq_getElem hlt, List.getElem?_eq_getElem hlt'⟩
  · have hge' : ys.length ≤ i := by omega
    exact Or.inl ⟨List.getElem?_eq_none hge, List.getElem?_eq_none hge'⟩

/-- Without a fix, a line stays what it is. -/
theorem Applied.Chain.eq_of_nil {before after : Text} (h : Chain before [] after) :
    before = after := by
  cases h
  rfl

namespace FixResult

theorem relines_of_eq {result : FixResult} {text : Text} (h : result.content = text) :
    result.Relines text := by
  refine ⟨by rw [h], fun _ => by rw [h], fun {i new old} hnew hold => ?_⟩
  rw [h] at hnew
  obtain rfl : new = old := Option.some.inj (hnew.symm.trans hold)
  exact FitsIn.refl new

theorem relines_of_withBodies {result : FixResult} {text : Text} {bodies : List Text}
    (hregistry : registry.KeepsLines) (hrules : ∀ f ∈ fs, f.rule.KeepsLines)
    (hfixes : FixesPieces registry fs 1 (Text.pieces text) bodies result.applied)
    (h : result.content = Text.withBodies (Text.pieces text) bodies) : result.Relines text := by
  have hfits : ∀ (i : Nat) (new piece : Text), bodies[i]? = some new →
      (Text.pieces text)[i]? = some piece → FitsIn new (Text.body piece) := by
    intro i new piece hnew hpiece
    exact fitsIn_of_fixBody hregistry (fun f hf => hrules f (List.mem_filter.mp hf).1)
      (hfixes.fixBody_eq hpiece hnew)
  have hlines : Text.lines result.content = bodies := by
    rw [h]
    refine Text.lines_withBodies (Text.isCut_pieces text) (List.forall₂_iff_get.mpr
      ⟨hfixes.length_eq, fun i hi hi' => hfits i _ _ ?_ ?_⟩)
    · exact List.getElem?_eq_getElem hi
    · exact List.getElem?_eq_getElem hi'
  have hold : ∀ i : Nat, (Text.lines text)[i]? = (Text.pieces text)[i]?.map Text.body :=
    fun i => List.getElem?_map
  refine ⟨?_, fun {i} hnone => ?_, fun {i new old} hnew hsome => ?_⟩
  · rw [hlines, hfixes.length_eq, Text.lines, List.length_map]
  · rw [hlines, hold]
    rcases getElem?_cases hfixes.length_eq i with ⟨hnew, hpiece⟩ | ⟨new, piece, hnew, hpiece⟩
    · rw [hnew, hpiece]
      rfl
    · have hchain := hfixes.chain hpiece hnew
      -- without a fix, the chain of fixes on the line leads nowhere
      have hfilter : result.applied.filter (·.line = 1 + i) = [] := by
        refine List.filter_eq_nil_iff.mpr fun a ha => ?_
        have hline := hnone a ha
        rw [decide_eq_true_eq]
        omega
      rw [hfilter] at hchain
      rw [hnew, hpiece, ← hchain.eq_of_nil]
      rfl
  · rw [hlines] at hnew
    rw [hold] at hsome
    obtain ⟨piece, hpiece, rfl⟩ := Option.map_eq_some_iff.mp hsome
    exact hfits i new piece hnew hpiece

/-- **Fixing keeps lines**, if the rules and the rewrites do. -/
theorem relines_of_fixText {validator : Validator} {path : Path} {text : Text}
    {result : FixResult} (hregistry : registry.KeepsLines)
    (hrules : ∀ f ∈ fs, f.rule.KeepsLines)
    (h : fixText registry validator path text fs = .ok result) : result.Relines text := by
  obtain ⟨fixed, hfixed, rfl⟩ := judge_of_fixText h
  rcases judge_cases validator path text fixed with
    ⟨-, hjudge⟩ | ⟨-, -, hjudge⟩ | ⟨rejection, -, -, hjudge⟩
  · rw [hjudge]
    exact relines_of_eq rfl
  · rw [hjudge]
    obtain ⟨part, hpart, hwhole⟩ := bind_eq_ok_iff.mp hfixed
    obtain ⟨bodies, hbodies, htext⟩ := fixesPieces_of_fixPieces hpart
    obtain rfl := Except.ok.inj hwhole
    exact relines_of_withBodies hregistry hrules hbodies htext
  · rw [hjudge]
    exact relines_of_eq rfl

end FixResult

end GnuLint
