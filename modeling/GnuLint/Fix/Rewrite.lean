import GnuLint.Text.Quoted

/-!
# Rewrites

A rewrite is given a line and the offset of a finding on it, and either rewrites the line
or declines with a reason. An offset past the end of the line is a fault of the caller,
not an answer. Rewrites are kept in a registry under names in ascending order.
-/

namespace GnuLint

/-- What a rewrite makes of a line. -/
inductive Outcome
  /-- The whole line, rewritten. -/
  | rewritten (line : Text)
  /-- The line is left alone, for a reason. -/
  | declined (reason : Text)
  deriving DecidableEq, Repr

/-- A misuse that no answer is defined for. -/
inductive Fault
  /-- The offset lies past the end of the line. -/
  | offsetPastEnd
  deriving DecidableEq, Repr

/-- A function that rewrites a line from an offset on. -/
abbrev Rewrite := (line : Text) → (offset : Nat) → Except Fault Outcome

/-- Rewrites by name, the names in ascending order. -/
structure Registry where
  /-- The names and their rewrites. -/
  entries : List (String × Rewrite)

namespace Registry

/-- The registry without rewrites. -/
def empty : Registry := ⟨[]⟩

instance : EmptyCollection Registry := ⟨empty⟩

/-- Entries with one more entry, which replaces the one under the same name. -/
def insertInto (name : String) (rewrite : Rewrite) :
    List (String × Rewrite) → List (String × Rewrite)
  | [] => [(name, rewrite)]
  | (key, value) :: entries =>
    if name < key then (name, rewrite) :: (key, value) :: entries
    else if name = key then (name, rewrite) :: entries
    else (key, value) :: insertInto name rewrite entries

/-- The registry with a rewrite under a name. -/
def insert (r : Registry) (name : String) (rewrite : Rewrite) : Registry :=
  ⟨insertInto name rewrite r.entries⟩

/-- The rewrite of a name. -/
def get? (r : Registry) (name : String) : Option Rewrite := r.entries.lookup name

/-- The names, in ascending order. -/
def names (r : Registry) : List String := r.entries.map Prod.fst

/-- The registry as a message shows it: by its names. -/
def description (r : Registry) : String :=
  let names := r.names.map fun name => String.ofList (Text.quoted name.toList)
  "TransformRegistry \x7b names: [" ++ ", ".intercalate names ++ "] \x7d"

end Registry

end GnuLint
