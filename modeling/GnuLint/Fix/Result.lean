import GnuLint.Fix.Attempt

/-!
# What fixing does

Fixing a script sorts its findings into those that were **applied** and those that are
**unresolved**, and makes a candidate of the applied ones. The candidate is handed to a
validator only if something was applied; if the validator rejects it, the script stays as
it was, and the applied findings count as unresolved.
-/

namespace GnuLint

/-- Why a script was judged not to be valid. -/
structure Rejection where
  /-- The words of the judgement. -/
  message : String
  deriving DecidableEq, Repr

/-- A judge of whole scripts. -/
abbrev Validator := Text → Except Rejection Unit

/-- A fix that was applied to a line. -/
structure Applied where
  /-- The number of the line. -/
  line : Nat
  /-- The column of the finding. -/
  column : Nat
  /-- The identifier of the rule. -/
  ruleId : String
  /-- The line before this fix. -/
  original : Text
  /-- The line after it. -/
  fixed : Text
  deriving DecidableEq, Repr

/-- A finding that was left alone. -/
structure Unresolved where
  /-- The number of the line. -/
  line : Nat
  /-- The column of the finding. -/
  column : Nat
  /-- The identifier of the rule. -/
  ruleId : String
  /-- The strategy of the rule. -/
  strategy : Strategy
  /-- Why it was left alone. -/
  reason : Reason
  deriving DecidableEq, Repr

/-- The record of a finding whose fix made one line out of another. -/
def Finding.applied (f : Finding) (original fixed : Text) : Applied :=
  ⟨f.line, f.column, f.rule.id, original, fixed⟩

/-- The record of a finding that was left alone. -/
def Finding.unresolved (f : Finding) (reason : Reason) : Unresolved :=
  ⟨f.line, f.column, f.rule.id, f.rule.strategy, reason⟩

/-- The outcome of fixing a script. -/
structure FixResult where
  /-- The file. -/
  path : Path
  /-- The text to write. -/
  content : Text
  /-- The fixes applied, in order. -/
  applied : List Applied
  /-- The findings left alone, in order. -/
  unresolved : List Unresolved
  /-- The text that was handed to the validator, if one was. -/
  candidate : Option Text
  /-- Why the validator rejected it, if it did. -/
  rejection : Option Rejection
  deriving DecidableEq, Repr

namespace FixResult

/-- Whether the validator rejected the candidate. -/
def isRejected (r : FixResult) : Bool := r.rejection.isSome

/-- The number of fixes in the text to write. -/
def fixedCount (r : FixResult) : Nat := if r.isRejected then 0 else r.applied.length

/-- The number of findings that are still there, those of a rejected candidate among
them. -/
def unresolvedCount (r : FixResult) : Nat :=
  if r.isRejected then r.unresolved.length + r.applied.length else r.unresolved.length

/-- The number of findings. -/
def attemptedCount (r : FixResult) : Nat := r.applied.length + r.unresolved.length

/-- Whether the text to write has fixes in it. -/
def isModified (r : FixResult) : Bool := 0 < r.fixedCount

theorem fixedCount_add_unresolvedCount (r : FixResult) :
    r.fixedCount + r.unresolvedCount = r.attemptedCount := by
  unfold fixedCount unresolvedCount attemptedCount
  split <;> omega

end FixResult

end GnuLint
