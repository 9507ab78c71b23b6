import GnuLint.Fix.Result

/-!
# Fixing a script

The findings of a script are fixed line by line. On a line they are fixed from the
rightmost column to the leftmost, so that a fix does not move the text of those still to
come; findings in one column keep their order. Only the body of a line is ever touched,
never its terminator, and a line depends on its own findings alone
(`GnuLint.fixPieces`).
-/

namespace GnuLint

/-! ### The order of findings -/

namespace Findings

/-- Whether one finding is to be fixed before another one: on an earlier line, or further
to the right on the same line. -/
def isBefore (f g : Finding) : Bool :=
  f.line < g.line || (f.line == g.line && g.column < f.column)

/-- Some findings in order, with one more that comes before those of its own place. -/
def insertInOrder (f : Finding) : List Finding → List Finding
  | [] => [f]
  | g :: gs => if isBefore g f then g :: insertInOrder f gs else f :: g :: gs

/-- **The findings in the order in which they are fixed**; those of one place keep their
order. -/
def inOrder : List Finding → List Finding
  | [] => []
  | f :: fs => insertInOrder f (inOrder fs)

theorem perm_insertInOrder (f : Finding) (fs : List Finding) :
    (insertInOrder f fs).Perm (f :: fs) := by
  induction fs with
  | nil => exact .refl _
  | cons g gs ih =>
    unfold insertInOrder
    split
    · exact (ih.cons g).trans (.swap f g gs)
    · exact .refl _

theorem perm_inOrder (fs : List Finding) : (inOrder fs).Perm fs := by
  induction fs with
  | nil => exact .refl _
  | cons f fs ih => exact (perm_insertInOrder f (inOrder fs)).trans (ih.cons f)

/-- The findings on a line. -/
def onLine (number : Nat) (fs : List Finding) : List Finding := fs.filter (·.line = number)

end Findings

/-! ### One line -/

/-- The outcome of fixing a stretch of a script: its text, and what was done. -/
structure FixedPart (α : Type) where
  /-- The text. -/
  text : α
  /-- The fixes applied, in order. -/
  applied : List Applied
  /-- The findings left alone, in order. -/
  unresolved : List Unresolved

/-- **The body of a line with some findings fixed**, one after the other, each on the body
that the one before left. -/
def fixLine (registry : Registry) : List Finding → Text → Except Fault (FixedPart Text)
  | [], body => .ok ⟨body, [], []⟩
  | f :: fs, body => do
    match ← f.attempt registry body with
    | .ok fixed =>
      let rest ← fixLine registry fs fixed
      return { rest with applied := f.applied body fixed :: rest.applied }
    | .error reason =>
      let rest ← fixLine registry fs body
      return { rest with unresolved := f.unresolved reason :: rest.unresolved }

/-! ### All lines -/

/-- **The pieces of a text with the findings on them fixed**, from a line number on; the
findings are in order. -/
def fixPieces (registry : Registry) (fs : List Finding) :
    (number : Nat) → List Text → Except Fault (FixedPart (List Text))
  | _, [] => .ok ⟨[], [], []⟩
  | number, piece :: pieces => do
    let line ← fixLine registry (Findings.onLine number fs) (Text.body piece)
    let rest ← fixPieces registry fs (number + 1) pieces
    return {
      text := (line.text ++ Text.terminator piece) :: rest.text
      applied := line.applied ++ rest.applied
      unresolved := line.unresolved ++ rest.unresolved }

/-- The records of findings on lines that the text does not have. -/
def pastEnd (fs : List Finding) : List Unresolved :=
  fs.map fun f => f.unresolved (.pastEnd f.line)

/-- The text with its findings fixed, before anyone has judged it. -/
def fixUnchecked (registry : Registry) (text : Text) (fs : List Finding) :
    Except Fault (FixedPart Text) := do
  let pieces := Text.pieces text
  let fs := Findings.inOrder fs
  let fixed ← fixPieces registry fs 1 pieces
  return {
    text := fixed.text.flatten
    applied := fixed.applied
    unresolved :=
      pastEnd (Findings.onLine 0 fs) ++ fixed.unresolved ++
        pastEnd (fs.filter (pieces.length < ·.line)) }

/-- The result of judging a text with its findings fixed; without a fix there is nothing to
judge. -/
def FixResult.judge (validator : Validator) (path : Path) (text : Text) (fixed : FixedPart Text) :
    FixResult :=
  if fixed.applied.isEmpty then ⟨path, text, fixed.applied, fixed.unresolved, none, none⟩
  else
    match validator fixed.text with
    | .ok () =>
      ⟨path, fixed.text, fixed.applied, fixed.unresolved, some fixed.text, none⟩
    | .error rejection =>
      ⟨path, text, fixed.applied, fixed.unresolved, some fixed.text, some rejection⟩

/-- **The text with its findings fixed**, unless the validator rejects it. -/
def fixText (registry : Registry) (validator : Validator) (path : Path) (text : Text)
    (fs : List Finding) : Except Fault FixResult := do
  let fixed ← fixUnchecked registry text fs
  return FixResult.judge validator path text fixed

end GnuLint
