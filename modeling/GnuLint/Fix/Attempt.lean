import GnuLint.Finding.Basic
import GnuLint.Fix.Rewrite

/-!
# Fixing one finding

A finding is fixed on the line as it is now, which is the line it was found on unless
other findings on the line were fixed before. What is found with a template is fixed by
replacing every occurrence of the pattern from the finding on; the text that was found
must still be there. What is found with a rewrite is fixed by that rewrite. A fix that
changes nothing does not count.

`GnuLint.Reason` lists the reasons for which a finding is left alone.
-/

namespace GnuLint

/-- A reason for which a finding is left alone. -/
inductive Reason
  /-- The text has no such line. -/
  | pastEnd (line : Nat)
  /-- The rule has no template. -/
  | noTemplate (id : String)
  /-- The text that was found is no longer there. -/
  | moved (matched : Text) (column : Nat)
  /-- The replacement changes nothing. -/
  | sameReplacement
  /-- No rewrite is registered under the name. -/
  | noRewrite (name : String)
  /-- The rewrite changes nothing. -/
  | sameRewrite
  /-- The rewrite declines. -/
  | declined (reason : Text)
  /-- A human has to see to it; the rule may say why. -/
  | manual (rationale : Option String)
  deriving DecidableEq, Repr

/-- The words for a reason. -/
def Reason.message : Reason → String
  | pastEnd line => "line " ++ toString line ++ " is past the end of the file"
  | noTemplate id => "rule " ++ id ++ " has no fix_template"
  | moved matched column =>
    "`" ++ String.ofList matched ++ "` is no longer at column " ++ toString column
  | sameReplacement => "replacement leaves the line unchanged"
  | noRewrite name => "no transform registered as `" ++ name ++ "`"
  | sameRewrite => "transform leaves the line unchanged"
  | declined reason => String.ofList reason
  | manual rationale => rationale.getD "needs a manual fix"

namespace Finding

/-- A fixed line, unless it is the line before. -/
def changed (reason : Reason) (line fixed : Text) : Except Reason Text :=
  if fixed = line then .error reason else .ok fixed

/-- The line before and from a finding on, if the text that was found is still there. -/
def cut? (f : Finding) (line : Text) : Option (Text × Text) :=
  (Text.cutAt? line f.offset).filter fun (_, tail) => Text.startsWith tail f.matched

/-- The line with the pattern replaced from a finding on. -/
def replace (f : Finding) (line : Text) : Except Reason Text :=
  match f.rule.template with
  | none => .error (.noTemplate f.rule.id)
  | some template =>
    match f.cut? line with
    | none => .error (.moved f.matched f.column)
    | some (start, tail) =>
      (changed .sameReplacement tail (f.rule.pattern.replaceAll tail template.toList)).map
        (start ++ ·)

/-- The line rewritten for a finding. -/
def transform (registry : Registry) (f : Finding) (line : Text) :
    Except Fault (Except Reason Text) :=
  match registry.get? f.rule.rewriteName with
  | none => .ok (.error (.noRewrite f.rule.rewriteName))
  | some rewrite => do
    match ← rewrite line f.offset with
    | .rewritten fixed => return changed .sameRewrite line fixed
    | .declined reason => return .error (.declined reason)

/-- **The line with a finding fixed**, or the reason for leaving it alone. -/
def attempt (registry : Registry) (f : Finding) (line : Text) :
    Except Fault (Except Reason Text) :=
  match f.rule.strategy with
  | .replace => .ok (f.replace line)
  | .transform => f.transform registry line
  | .suggest | .function => .ok (.error (.manual f.rule.rationale))

/-- **Whether a finding would be fixed** on the line it was found on, judged without
replacing anything: a template is taken to do its work. -/
def isFixable (registry : Registry) (f : Finding) : Except Fault Bool :=
  match f.rule.strategy with
  | .replace => .ok f.rule.template.isSome
  | .transform =>
    match registry.get? f.rule.rewriteName with
    | none => .ok false
    | some rewrite => do
      match ← rewrite f.content f.offset with
      | .rewritten fixed => return fixed ≠ f.content
      | .declined _ => return false
  | .suggest | .function => .ok false

end Finding

end GnuLint
