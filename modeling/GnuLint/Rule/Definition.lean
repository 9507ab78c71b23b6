import GnuLint.Pattern.Error
import GnuLint.Text.Quoted

/-!
# Rule definitions

A rule as it is written down, before anything in it has been checked: every pattern
is a mere text, and so are the severity and the strategy, so that an unknown value is
held against the rule it stands in. The causes for which a definition is refused are
`GnuLint.DefinitionError`.
-/

namespace GnuLint

/-- A piece of script that a rule complains about, and one it does not. -/
structure Examples where
  /-- What the rule complains about. -/
  bad : String := ""
  /-- What it does not complain about. -/
  good : String := ""
  deriving DecidableEq, Repr

/-- A rule as it is written down. -/
structure Definition where
  /-- The identifier, by which one rule overrides another. -/
  id : String := ""
  /-- The title. -/
  name : String := ""
  /-- What is wrong with what the rule finds. -/
  description : String := ""
  /-- The name of the severity. -/
  severity : Option String := none
  /-- The pattern searched for on a line. -/
  pattern : String := ""
  /-- The pattern whose occurrence on the same line speaks against the finding. -/
  negativePattern : Option String := none
  /-- The pattern that the first line of a script has to match for the rule to apply. -/
  shebangMatch : Option String := none
  /-- The name of the strategy. -/
  strategy : Option String := none
  /-- What a match is replaced by. -/
  template : Option String := none
  /-- Why a human has to see to it. -/
  rationale : Option String := none
  /-- The name of the rewrite. -/
  rewrite : Option String := none
  /-- Examples. -/
  examples : Option Examples := none
  /-- Keywords. -/
  tags : List String := []
  /-- Where to read more. -/
  references : List String := []
  deriving DecidableEq, Repr

/-! ### Why a definition is refused -/

/-- The fields of a definition that can be missing or hold a malformed pattern. -/
inductive DefinitionField
  /-- The identifier. -/
  | id
  /-- The title. -/
  | name
  /-- The pattern. -/
  | pattern
  /-- The pattern that speaks against a finding. -/
  | negativePattern
  /-- The pattern of the first line. -/
  | shebangMatch
  deriving DecidableEq, Repr

/-- The key of a field in a rules document. -/
def DefinitionField.key : DefinitionField → String
  | id => "id"
  | name => "name"
  | pattern => "pattern"
  | negativePattern => "negative_pattern"
  | shebangMatch => "shebang_match"

/-- A cause for which a definition is refused. What is wrong with the text of a pattern is told by
whoever compiles patterns. -/
inductive DefinitionError (ε : Type := PatternError)
  /-- A field that every rule needs is empty. -/
  | missingField (field : DefinitionField)
  /-- The text of a field is not a pattern. -/
  | invalidPattern (field : DefinitionField) (source : String) (cause : ε)
  /-- The severity is none of the known ones. -/
  | unknownSeverity (name : String)
  /-- The strategy is none of the known ones. -/
  | unknownStrategy (name : String)
  deriving DecidableEq, Repr

namespace DefinitionError

/-- A text between double quotes, as messages show it. -/
def quote (s : String) : String := String.ofList (Text.quoted s.toList)

/-- The words for a cause. -/
def message {ε : Type} : DefinitionError ε → String
  | missingField field => "missing required field `" ++ field.key ++ "`"
  | invalidPattern field source _ => "`" ++ field.key ++ "` is not a valid regex: " ++ source
  | unknownSeverity name =>
    "unknown severity " ++ quote name ++ " (expected error, warning or info)"
  | unknownStrategy name =>
    "unknown fix_type " ++ quote name ++ " (expected replace, suggest, function or transform)"

/-- The words for a cause, followed by those for what lies behind it. -/
def chain (e : DefinitionError) : List String :=
  match e with
  | invalidPattern _ _ cause => [e.message, cause.message]
  | e => [e.message]

end DefinitionError

end GnuLint
