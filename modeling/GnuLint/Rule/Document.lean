import GnuLint.Rule.RuleSet
import GnuLint.Toml.Document

/-!
# Rules documents

A rules document is a TOML document with an array of definitions under the key `rules`.
Unknown keys are passed over, but a known key with a value of the wrong type spoils the
document. A definition is a table; it may also be an array of its fields in order, as
long as the array reaches the last optional field.

Reading a document is all or nothing: the first definition with a fault refuses the
whole document, whatever function its patterns are compiled by
(`GnuLint.RuleSet.ofDefinitionsWith`).
-/

namespace GnuLint

/-! ### Definitions in a document -/

namespace Toml.Value

/-- The text of a string. -/
def asString : Value → Except Error String
  | string s => .ok s
  | _ => .error (.wrongType "a string")

/-- The elements of an array. -/
def asArray : Value → Except Error (List Value)
  | array items | tables items => .ok items
  | _ => .error (.wrongType "an array")

/-- The texts of an array of strings. -/
def asStrings (v : Value) : Except Error (List String) := do
  (← v.asArray).mapM asString

/-- The values of some fields, in order: those of a table by their keys, those of an array
by their places; a date or time has none of them. -/
def fields (keys : List String) : Value → Except Error (List (Option Value))
  | table _ entries => .ok (keys.map (Table.get? entries))
  | array items | tables items => .ok (keys.zipIdx.map fun (_, i) => items[i]?)
  | dateTime _ => .ok (keys.map fun _ => none)
  | _ => .error (.wrongType "a table")

/-- Whether a value is an array. -/
def isArray : Value → Bool
  | array _ | tables _ => true
  | _ => false

/-- A string, empty if it is missing. -/
def orEmpty (v : Option Value) : Except Error String := (v.map asString).getD (.ok "")

/-- A string, if it is there. -/
def optional (v : Option Value) : Except Error (Option String) :=
  match v with
  | none => .ok none
  | some v => v.asString.map some

/-- An array of strings, empty if it is missing. -/
def stringsOrEmpty (v : Option Value) : Except Error (List String) :=
  (v.map asStrings).getD (.ok [])

end Toml.Value

open Toml.Value

/-- The examples that a value describes. -/
def Examples.ofToml (v : Toml.Value) : Except Toml.Error Examples := do
  let fields ← v.fields ["bad", "good"]
  let field (i : Nat) : Option Toml.Value := fields[i]?.join
  return { bad := ← orEmpty (field 0), good := ← orEmpty (field 1) }

namespace Definition

/-- The keys of a definition, in order. -/
def keys : List String :=
  ["id", "name", "description", "severity", "pattern", "negative_pattern", "shebang_match",
    "fix_type", "fix_template", "why_unfixable", "fix_function", "examples", "tags",
    "references"]

/-- How many fields a definition in the form of an array has at least. -/
def leastFields : Nat := 11

/-- The definition that a value describes. -/
def ofToml (v : Toml.Value) : Except Toml.Error Definition := do
  let fields ← v.fields keys
  let field (i : Nat) : Option Toml.Value := fields[i]?.join
  if v.isArray && (field (leastFields - 1)).isNone then
    throw (.wrongType "a definition with all its fields")
  return {
    id := ← orEmpty (field 0)
    name := ← orEmpty (field 1)
    description := ← orEmpty (field 2)
    severity := ← optional (field 3)
    pattern := ← orEmpty (field 4)
    negativePattern := ← optional (field 5)
    shebangMatch := ← optional (field 6)
    strategy := ← optional (field 7)
    template := ← optional (field 8)
    rationale := ← optional (field 9)
    rewrite := ← optional (field 10)
    examples := ← (field 11).mapM Examples.ofToml
    tags := ← stringsOrEmpty (field 12)
    references := ← stringsOrEmpty (field 13) }

/-- **The definitions of a document**, or why it is no rules document. -/
def ofDocument (text : Text) : Except Toml.Error (List Definition) := do
  let document ← Toml.parse text
  let _ ← optional (document.get? "version")
  match document.get? "rules" with
  | none => return []
  | some rules => (← rules.asArray).mapM ofToml

end Definition

/-! ### The rules of a document -/

/-- A cause for which the rules of a document are refused. -/
inductive DocumentError (ε : Type := PatternError)
  /-- The text is no rules document. -/
  | malformed (cause : Toml.Error)
  /-- A definition, given by its place and its identifier, has a fault. -/
  | invalidRule (index : Nat) (id : String) (cause : DefinitionError ε)
  deriving DecidableEq, Repr

namespace RuleSet

section Reading

variable {P ε : Type} (compile : String → Except ε P)

/-- The rules of some definitions, or the first definition with a fault; `index` is the
place of the first definition. -/
def rulesWith (index : Nat) : List Definition → Except (DocumentError ε) (List (Rule P))
  | [] => .ok []
  | d :: ds =>
    match Rule.ofDefinitionWith compile d with
    | .error cause => .error (.invalidRule index d.id cause)
    | .ok rule => (rulesWith (index + 1) ds).map (rule :: ·)

/-- **The rule set of some definitions**, or the first definition with a fault. -/
def ofDefinitionsWith (ds : List Definition) : Except (DocumentError ε) (RuleSet P) :=
  (rulesWith compile 0 ds).map ofRules

/-- **The rule set of a document**, given how its definitions are read, or why it is
refused. -/
def ofDocumentWith (read : Text → Except Toml.Error (List Definition)) (text : Text) :
    Except (DocumentError ε) (RuleSet P) :=
  match read text with
  | .error cause => .error (.malformed cause)
  | .ok ds => ofDefinitionsWith compile ds

end Reading

/-- **The rule set of a document** that scripts are checked with, or why it is refused. -/
def ofDocument (text : Text) : Except DocumentError RuleSet :=
  ofDocumentWith Pattern.ofString Definition.ofDocument text

end RuleSet

end GnuLint
