import GnuLint.Rule.Basic

/-!
# Rule sets

A rule set is a list of rules with distinct identifiers, in the order in which the
identifiers first came up. A rule added later under an identifier in use takes the
place of the earlier one.

Rules are added to a table (`GnuLint.RuleTable`), which knows for every identifier in use
the place where its rule stands, so that no rule is searched for. That the places are the
right ones is part of the table.
-/

namespace GnuLint

variable {P : Type}

/-! ### Tables of rules -/

/-- Rules with distinct identifiers, and the places where they stand. -/
structure RuleTable (P : Type := Pattern) where
  /-- The rules. -/
  rules : List (Rule P)
  /-- The identifiers in use, each with the place of its rule. -/
  seen : List (String × Nat)
  /-- No identifier comes up twice. -/
  nodup_ids : (rules.map Rule.id).Nodup
  /-- An identifier is seen where its rule stands, and nowhere else. -/
  lookup_seen (id : String) : seen.lookup id = (rules.map Rule.id).idxOf? id

namespace RuleTable

/-- The table without rules. -/
def empty : RuleTable P := ⟨[], [], List.nodup_nil, fun _ => rfl⟩

/-- A rule in the place of one with its identifier leaves the identifiers as they are. -/
theorem map_id_set {rs : List (Rule P)} {r : Rule P} {place : Nat}
    (h : (rs.map Rule.id).idxOf? r.id = some place) :
    (rs.set place r).map Rule.id = rs.map Rule.id := by
  obtain ⟨hplace, hid, -⟩ := List.idxOf?_eq_some_iff.mp h
  rw [List.map_set, ← hid, List.set_getElem_self]

/-- An identifier that is new has its place after all others. -/
theorem idxOf?_concat {ids : List String} {new : String} (h : new ∉ ids) (id : String) :
    (ids ++ [new]).idxOf? id = if id == new then some ids.length else ids.idxOf? id := by
  rw [List.idxOf?, List.findIdx?_append, ← List.idxOf?]
  by_cases hid : id = new
  · subst hid
    rw [List.idxOf?_eq_none_iff.mpr h]
    simp
  · simp [hid, Ne.symm hid]

/-- The table with a rule in the place of the one with its identifier. -/
def replace (t : RuleTable P) (r : Rule P) (place : Nat)
    (h : t.seen.lookup r.id = some place) : RuleTable P where
  rules := t.rules.set place r
  seen := t.seen
  nodup_ids := by
    rw [map_id_set ((t.lookup_seen r.id).symm.trans h)]
    exact t.nodup_ids
  lookup_seen := by
    rw [map_id_set ((t.lookup_seen r.id).symm.trans h)]
    exact t.lookup_seen

/-- The table with a rule at the end, whose identifier is not in use. -/
def append (t : RuleTable P) (r : Rule P) (h : t.seen.lookup r.id = none) : RuleTable P where
  rules := t.rules ++ [r]
  seen := (r.id, t.rules.length) :: t.seen
  nodup_ids := by
    have hnew := List.idxOf?_eq_none_iff.mp ((t.lookup_seen r.id).symm.trans h)
    rw [List.map_append, List.map_singleton, List.nodup_append]
    refine ⟨t.nodup_ids, by simp, fun i hi j hj hij => hnew ?_⟩
    rwa [← List.mem_singleton.mp hj, ← hij]
  lookup_seen id := by
    have hnew := List.idxOf?_eq_none_iff.mp ((t.lookup_seen r.id).symm.trans h)
    rw [List.map_append, List.map_singleton, idxOf?_concat hnew, List.lookup_cons,
      t.lookup_seen, List.length_map]
    cases id == r.id <;> rfl

/-- **The table with one more rule**: in the place of the rule with the same identifier, or
at the end. -/
def add (t : RuleTable P) (r : Rule P) : RuleTable P :=
  match h : t.seen.lookup r.id with
  | some place => t.replace r place h
  | none => t.append r h

/-- The table with some more rules, added one after the other. -/
def addAll (t : RuleTable P) (rs : List (Rule P)) : RuleTable P := rs.foldl add t

end RuleTable

/-! ### Rule sets -/

/-- Rules with distinct identifiers, in order. -/
structure RuleSet (P : Type := Pattern) where
  /-- The rules. -/
  rules : List (Rule P)
  /-- No identifier comes up twice. -/
  nodup_ids : (rules.map Rule.id).Nodup

/-- The rules of a table. -/
def RuleTable.ruleSet (t : RuleTable P) : RuleSet P := ⟨t.rules, t.nodup_ids⟩

namespace RuleSet

theorem ext_rules {a b : RuleSet P} (h : a.rules = b.rules) : a = b := by
  cases a
  cases b
  simp_all

instance : DecidableEq RuleSet := fun a b =>
  decidable_of_iff (a.rules = b.rules) ⟨ext_rules, congrArg rules⟩

/-- The rule set without rules. -/
def empty : RuleSet P := ⟨[], List.nodup_nil⟩

instance : EmptyCollection (RuleSet P) := ⟨empty⟩

/-- **The rule set of some rules**; a repeated identifier replaces the earlier rule. -/
def ofRules (rs : List (Rule P)) : RuleSet P := (RuleTable.empty.addAll rs).ruleSet

/-- **Several rule sets in one**: a rule overrides the earlier one with its identifier,
and new identifiers come last. -/
def merge (sets : List (RuleSet P)) : RuleSet P :=
  (sets.foldl (fun t s => t.addAll s.rules) RuleTable.empty).ruleSet

/-- A rule set overridden by another one. -/
def overriddenBy (s overrides : RuleSet P) : RuleSet P := merge [s, overrides]

/-- The rule with an identifier. -/
def get? (s : RuleSet P) (id : String) : Option (Rule P) := s.rules.find? (·.id == id)

/-- The identifiers. -/
def ids (s : RuleSet P) : List String := s.rules.map Rule.id

/-- The number of rules. -/
def size (s : RuleSet P) : Nat := s.rules.length

end RuleSet

end GnuLint
