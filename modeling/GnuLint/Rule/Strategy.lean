/-!
# Strategies

What is done about a finding: its text is replaced by a template, the line is handed
to a named rewrite, or it is left to a human, with a hint or with a helper function to
write. Only the first two run without a human.
-/

namespace GnuLint

/-- What is done about a finding. -/
inductive Strategy
  /-- The matched text is replaced by a template. -/
  | replace
  /-- A human is told what to do. -/
  | suggest
  /-- A human is told to write a helper function. -/
  | function
  /-- The line is rewritten by a named rewrite. -/
  | transform
  deriving DecidableEq, Repr

namespace Strategy

/-- All strategies. -/
def all : List Strategy := [replace, suggest, function, transform]

theorem mem_all (s : Strategy) : s ∈ all := by
  cases s <;> decide

/-- The name of a strategy. -/
def name : Strategy → String
  | replace => "replace"
  | suggest => "suggest"
  | function => "function"
  | transform => "transform"

/-- The strategy of a name, if it is one. -/
def ofName? (s : String) : Option Strategy := all.find? (·.name == s)

@[simp] theorem ofName?_name (s : Strategy) : ofName? s.name = some s := by
  cases s <;> decide

theorem ofName?_eq_some_iff {t : String} {s : Strategy} : ofName? t = some s ↔ t = s.name := by
  constructor
  · intro h
    rw [ofName?] at h
    have hname := List.find?_some h
    exact (beq_iff_eq.1 hname).symm
  · rintro rfl
    exact ofName?_name s

/-- The strategy of a rule that gives none. -/
def fallback : Strategy := suggest

/-- Whether a strategy runs without a human. -/
def isAutomatic : Strategy → Bool
  | replace | transform => true
  | suggest | function => false

end Strategy

end GnuLint
