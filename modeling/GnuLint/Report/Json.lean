import GnuLint.Finding.Basic
import GnuLint.Text.Quoted

/-!
# Reports as JSON

A report for machines is one JSON document with the sums and the findings. Members come in
a fixed order, one to a line, two blanks for each level, and a member that has nothing to
say is left out.
-/

namespace GnuLint

/-- What a report for machines is made of. -/
inductive Json
  /-- A number. -/
  | number (n : Nat)
  /-- A string. -/
  | string (s : Text)
  /-- A list. -/
  | array (items : List Json)
  /-- An object, its members in order. -/
  | object (members : List (Text × Json))

namespace Json

/-! ### Writing a document -/

/-- A character as it stands in a string. -/
def escapeChar (c : Char) : Text :=
  match c with
  | '"' => "\\\"".toList
  | '\\' => "\\\\".toList
  | '\x08' => "\\b".toList
  | '\t' => "\\t".toList
  | '\n' => "\\n".toList
  | '\x0c' => "\\f".toList
  | '\r' => "\\r".toList
  | c =>
    if c < ' ' then
      let digits := Text.hexDigits c.toNat
      "\\u".toList ++ List.replicate (4 - digits.length) '0' ++ digits
    else [c]

/-- A string with its quotes. -/
def quote (s : Text) : Text := '"' :: (s.flatMap escapeChar ++ ['"'])

/-- A newline and the blanks of a level. -/
def newline (level : Nat) : Text := '\n' :: List.replicate (2 * level) ' '

mutual

/-- A value, written at a level. -/
def write (level : Nat) : Json → Text
  | number n => (toString n).toList
  | string s => quote s
  | array [] => "[]".toList
  | array (item :: items) =>
    '[' :: newline (level + 1) ++ write (level + 1) item ++ writeItems (level + 1) items ++
      newline level ++ [']']
  | object [] => ['\x7b', '\x7d']
  | object ((key, value) :: members) =>
    '\x7b' :: newline (level + 1) ++ quote key ++ ": ".toList ++ write (level + 1) value ++
      writeMembers (level + 1) members ++ newline level ++ ['\x7d']

/-- The items of a list after the first one. -/
def writeItems (level : Nat) : List Json → Text
  | [] => []
  | item :: items => ',' :: newline level ++ write level item ++ writeItems level items

/-- The members of an object after the first one. -/
def writeMembers (level : Nat) : List (Text × Json) → Text
  | [] => []
  | (key, value) :: members =>
    ',' :: newline level ++ quote key ++ ": ".toList ++ write level value ++
      writeMembers level members

end

end Json

/-! ### The report -/

namespace Report

/-- A member whose value is a string. -/
def member (key : String) (value : Text) : Text × Json := (key.toList, .string value)

/-- A member whose value is a number. -/
def count (key : String) (n : Nat) : Text × Json := (key.toList, .number n)

/-- A member that may be left out. -/
def member? (key : String) (value : Option String) : List (Text × Json) :=
  (value.map fun s => member key s.toList).toList

/-- A finding in a report for machines. -/
def findingJson (f : Finding) : Json :=
  .object <|
    [member "file" f.file.spelling, count "line" f.line, count "column" f.column,
      member "rule_id" f.rule.id.toList, member "rule_name" f.rule.name.toList,
      member "severity" f.severity.name.toList,
      member "description" f.rule.description.toList, member "content" f.content,
      member "matched" f.matched] ++
    member? "fix" f.rule.template ++ [member "fix_type" f.rule.strategy.name.toList] ++
    member? "why_unfixable" f.rule.rationale

/-- **The report for machines**, with a newline after it. -/
def json (fs : List Finding) : Text :=
  let counts := Findings.counts fs
  let document := Json.object [
    count "total_issues" fs.length, count "errors" counts.errors,
    count "warnings" counts.warnings, count "infos" counts.infos,
    ("matches".toList, .array (fs.map findingJson))]
  document.write 0 ++ ['\n']

end Report

end GnuLint
