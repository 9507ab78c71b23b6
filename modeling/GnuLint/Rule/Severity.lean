/-!
# Severities

How much a finding matters: for information, as a warning, or as an error.
Severities are ordered, and a report may be limited to those from some severity on.
-/

namespace GnuLint

/-- How much a finding matters. -/
inductive Severity
  /-- For information. -/
  | info
  /-- A warning. -/
  | warning
  /-- An error. -/
  | error
  deriving DecidableEq, Repr

namespace Severity

/-- All severities, in ascending order. -/
def all : List Severity := [info, warning, error]

/-- The name of a severity. -/
def name : Severity → String
  | info => "info"
  | warning => "warning"
  | error => "error"

/-- The severity of a name, if it is one. -/
def ofName? (s : String) : Option Severity := all.find? (·.name == s)

@[simp] theorem ofName?_name (s : Severity) : ofName? s.name = some s := by
  cases s <;> decide

theorem ofName?_eq_some_iff {t : String} {s : Severity} : ofName? t = some s ↔ t = s.name := by
  constructor
  · intro h
    rw [ofName?] at h
    have hname := List.find?_some h
    exact (beq_iff_eq.1 hname).symm
  · rintro rfl
    exact ofName?_name s

/-- The severity of a rule that gives none. -/
def fallback : Severity := warning

/-! ### Order -/

/-- The place of a severity in the ascending order. -/
def rank : Severity → Nat
  | info => 0
  | warning => 1
  | error => 2

instance : LE Severity := ⟨fun a b => a.rank ≤ b.rank⟩

instance (a b : Severity) : Decidable (a ≤ b) := inferInstanceAs (Decidable (a.rank ≤ b.rank))

theorem le_def {a b : Severity} : a ≤ b ↔ a.rank ≤ b.rank := Iff.rfl

end Severity

end GnuLint
