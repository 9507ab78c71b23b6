import GnuLint.Rule.RuleSet
import Mathlib.Data.Finset.Card
import Mathlib.Data.List.Induction
import Mathlib.Data.List.Nodup

/-!
# Merging rule sets

A table of rules takes a rule in at the place that it has noted for its identifier. Since the
noted places are the right ones, this comes to the same as looking for the identifier from the
first rule to the last (`GnuLint.RuleTable.rules_add`), and what a table does to its rules can be
told without places (`GnuLint.RuleSet.insert`).

What a merged rule set holds comes from two ends of what went into it: an identifier stands
where it first came up, and its rule is the one that came last. A rule set is therefore
looked at in two ways, by its identifiers in order and by the rule that each of them has;
together they determine it (`GnuLint.RuleSet.eq_of_views`). Adding a rule changes either view
in one place, so what they show of a whole merge (`GnuLint.RuleSet.merge_collects`) is seen by
following the rules from the first to the last.
-/

namespace GnuLint

variable {P : Type}

/-! ### Rules that are looked for by their identifiers -/

namespace Rule

/-- The rules with one more rule: in the place of the rule with the same identifier, or
at the end. -/
def insertInto (r : Rule P) : List (Rule P) → List (Rule P)
  | [] => [r]
  | q :: qs => if q.id = r.id then r :: qs else q :: r.insertInto qs

variable {r : Rule P} {qs : List (Rule P)}

theorem map_id_insertInto : (r.insertInto qs).map Rule.id =
    if r.id ∈ qs.map Rule.id then qs.map Rule.id else qs.map Rule.id ++ [r.id] := by
  induction qs with
  | nil => rfl
  | cons q qs ih =>
    by_cases h : q.id = r.id
    · rw [insertInto, if_pos h, List.map_cons, List.map_cons, h, if_pos List.mem_cons_self]
    · rw [insertInto, if_neg h, List.map_cons, ih, List.map_cons]
      by_cases hmem : r.id ∈ qs.map Rule.id
      · rw [if_pos hmem, if_pos (List.mem_cons_of_mem _ hmem)]
      · rw [if_neg hmem, if_neg (List.not_mem_cons_of_ne_of_not_mem (Ne.symm h) hmem),
          List.cons_append]

theorem mem_ids_insertInto {i : String} :
    i ∈ (r.insertInto qs).map Rule.id ↔ i = r.id ∨ i ∈ qs.map Rule.id := by
  rw [map_id_insertInto]
  by_cases h : r.id ∈ qs.map Rule.id
  · rw [if_pos h]
    exact ⟨Or.inr, fun hi => hi.elim (fun he => he ▸ h) fun hi => hi⟩
  · rw [if_neg h, List.mem_append, List.mem_singleton, or_comm]

theorem nodup_ids_insertInto (h : (qs.map Rule.id).Nodup) :
    ((r.insertInto qs).map Rule.id).Nodup := by
  rw [map_id_insertInto]
  by_cases hmem : r.id ∈ qs.map Rule.id
  · rwa [if_pos hmem]
  · rw [if_neg hmem, ← List.concat_eq_append, List.nodup_concat]
    exact ⟨hmem, h⟩

theorem find?_id_cons (q : Rule P) (qs : List (Rule P)) (i : String) :
    (q :: qs).find? (·.id == i) = if q.id = i then some q else qs.find? (·.id == i) := by
  rw [List.find?_cons]
  by_cases h : q.id = i
  · rw [if_pos h, h, beq_self_eq_true]
  · rw [if_neg h, beq_false_of_ne h]

theorem find?_insertInto (i : String) : (r.insertInto qs).find? (·.id == i) =
    if r.id = i then some r else qs.find? (·.id == i) := by
  induction qs with
  | nil => exact find?_id_cons r [] i
  | cons q qs ih =>
    by_cases h : q.id = r.id
    · rw [insertInto, if_pos h, find?_id_cons, find?_id_cons, h]
      by_cases hi : r.id = i <;> simp [hi]
    · rw [insertInto, if_neg h, find?_id_cons, find?_id_cons, ih]
      -- `q` is still found before the new rule, which has another identifier
      by_cases hi : q.id = i
      · have hr : r.id ≠ i := fun hr => h (hi.trans hr.symm)
        simp [hi, hr]
      · simp [hi]

theorem insertInto_of_notMem (h : r.id ∉ qs.map Rule.id) : r.insertInto qs = qs ++ [r] := by
  induction qs with
  | nil => rfl
  | cons q qs ih =>
    rw [List.map_cons, List.mem_cons, not_or] at h
    rw [insertInto, if_neg (Ne.symm h.1), ih h.2]
    rfl

theorem insertInto_of_idxOf? {place : Nat} (h : (qs.map Rule.id).idxOf? r.id = some place) :
    r.insertInto qs = qs.set place r := by
  induction qs generalizing place with
  | nil => cases h
  | cons q qs ih =>
    rw [List.map_cons, List.idxOf?_cons] at h
    by_cases hq : q.id = r.id
    · rw [if_pos (beq_iff_eq.mpr hq)] at h
      obtain rfl := Option.some.inj h
      rw [insertInto, if_pos hq, List.set_cons_zero]
    · rw [if_neg (by simpa using hq)] at h
      obtain ⟨place, hplace, rfl⟩ := Option.map_eq_some_iff.mp h
      rw [insertInto, if_neg hq, ih hplace, List.set_cons_succ]

end Rule

namespace RuleSet

/-- The rule set with one more rule. -/
def insert (s : RuleSet P) (r : Rule P) : RuleSet P :=
  ⟨r.insertInto s.rules, Rule.nodup_ids_insertInto s.nodup_ids⟩

/-- The rule set with some more rules, added one after the other. -/
def insertAll (s : RuleSet P) (rs : List (Rule P)) : RuleSet P := rs.foldl insert s

end RuleSet

namespace RuleTable

/-- **A table takes a rule in where its identifier stands.** -/
theorem rules_add (t : RuleTable P) (r : Rule P) : (t.add r).rules = r.insertInto t.rules := by
  have hplace := t.lookup_seen r.id
  unfold add
  split
  · rename_i place h
    exact (Rule.insertInto_of_idxOf? (hplace.symm.trans h)).symm
  · rename_i h
    have hnew := List.idxOf?_eq_none_iff.mp (hplace.symm.trans h)
    exact (Rule.insertInto_of_notMem hnew).symm

theorem ruleSet_add (t : RuleTable P) (r : Rule P) : (t.add r).ruleSet = t.ruleSet.insert r :=
  RuleSet.ext_rules (t.rules_add r)

theorem ruleSet_addAll (t : RuleTable P) (rs : List (Rule P)) :
    (t.addAll rs).ruleSet = t.ruleSet.insertAll rs := by
  induction rs generalizing t with
  | nil => rfl
  | cons r rs ih => exact (ih (t.add r)).trans (congrArg (·.insertAll rs) (t.ruleSet_add r))

end RuleTable

/-! ### Two views of a rule set -/

namespace RuleSet

/-- **The rule set of some rules** is what adding them by their identifiers gives. -/
theorem ofRules_eq_insertAll (rs : List (Rule P)) : ofRules rs = empty.insertAll rs :=
  RuleTable.empty.ruleSet_addAll rs

/-- A merge is the rule set of all rules of its rule sets. -/
theorem merge_eq_ofRules (sets : List (RuleSet P)) : merge sets = ofRules (sets.flatMap rules) := by
  rw [merge, ofRules, RuleTable.addAll, List.foldl_flatMap]
  rfl

section Views

variable {s : RuleSet P} {r : Rule P} {i : String}

theorem ids_insert : (s.insert r).ids = if r.id ∈ s.ids then s.ids else s.ids ++ [r.id] :=
  Rule.map_id_insertInto

theorem ids_insert_of_mem (h : r.id ∈ s.ids) : (s.insert r).ids = s.ids := by
  rw [ids_insert, if_pos h]

theorem mem_ids_insert : i ∈ (s.insert r).ids ↔ i = r.id ∨ i ∈ s.ids :=
  Rule.mem_ids_insertInto

theorem get?_insert : (s.insert r).get? i = if r.id = i then some r else s.get? i :=
  Rule.find?_insertInto i

/-- The rule under an identifier is the one rule that has it. -/
theorem get?_eq_some_iff : s.get? i = some r ↔ r ∈ s.rules ∧ r.id = i := by
  rw [get?]
  constructor
  · intro h
    have hid := List.find?_some h
    exact ⟨List.mem_of_find?_eq_some h, beq_iff_eq.mp hid⟩
  · rintro ⟨hr, rfl⟩
    cases hq : s.rules.find? (·.id == r.id) with
    | none =>
      have hne := List.find?_eq_none.mp hq r hr
      exact absurd (beq_self_eq_true r.id) hne
    | some q =>
      have hid := List.find?_some hq
      have hmem := List.mem_of_find?_eq_some hq
      rw [List.inj_on_of_nodup_map s.nodup_ids hmem hr (beq_iff_eq.mp hid)]

theorem filterMap_get?_ids (s : RuleSet P) : s.ids.filterMap s.get? = s.rules := by
  have hget : ∀ r ∈ s.rules, (s.get? ∘ Rule.id) r = some r :=
    fun r hr => get?_eq_some_iff.mpr ⟨hr, rfl⟩
  rw [ids, List.filterMap_map, List.filterMap_congr hget, List.filterMap_some]

/-- **The identifiers in order and the rule of each make up a rule set.** -/
theorem eq_of_views {a b : RuleSet P} (hids : a.ids = b.ids) (hget : ∀ i, a.get? i = b.get? i) :
    a = b := by
  refine ext_rules ?_
  rw [← filterMap_get?_ids a, ← filterMap_get?_ids b, hids, funext hget]

end Views

/-! ### What a merge holds -/

theorem insertAll_cons (s : RuleSet P) (r : Rule P) (rs : List (Rule P)) :
    s.insertAll (r :: rs) = (s.insert r).insertAll rs := rfl

theorem insertAll_append (s : RuleSet P) (rs rs' : List (Rule P)) :
    s.insertAll (rs ++ rs') = (s.insertAll rs).insertAll rs' :=
  List.foldl_append

theorem ofRules_concat (rs : List (Rule P)) (r : Rule P) :
    ofRules (rs ++ [r]) = (ofRules rs).insert r := by
  rw [ofRules_eq_insertAll, ofRules_eq_insertAll, insertAll_append]
  rfl

/-- Without its repetitions, a text that is added to a list comes last, if it is new. -/
theorem eraseDups_concat (is : List String) (i : String) :
    (is ++ [i]).eraseDups = if i ∈ is then is.eraseDups else is.eraseDups ++ [i] := by
  rw [List.eraseDups_append, List.removeAll, List.filter_singleton]
  by_cases h : i ∈ is <;> simp [h, List.eraseDups_cons]

theorem ids_ofRules (rs : List (Rule P)) : (ofRules rs).ids = (rs.map Rule.id).eraseDups := by
  -- from the end of the list on, since that is where the rule added last stands
  induction rs using List.reverseRecOn with
  | nil => rfl
  | append_singleton rs r ih =>
    rw [ofRules_concat, ids_insert, ih, List.map_append, List.map_singleton, eraseDups_concat]
    simp only [List.mem_eraseDups]

theorem get?_ofRules (rs : List (Rule P)) (i : String) :
    (ofRules rs).get? i = (rs.filter (·.id == i)).getLast? := by
  induction rs using List.reverseRecOn with
  | nil => rfl
  | append_singleton rs r ih =>
    rw [ofRules_concat, get?_insert, ih, List.filter_append]
    by_cases h : r.id = i
    · rw [if_pos h, List.filter_cons_of_pos (by simpa using h), List.filter_nil,
        List.getLast?_concat]
    · rw [if_neg h, List.filter_cons_of_neg (by simpa using h), List.filter_nil,
        List.append_nil]

/-- There are as many rules as there are different identifiers. -/
theorem size_ofRules (rs : List (Rule P)) : (ofRules rs).size = (rs.map Rule.id).toFinset.card := by
  have hids : (ofRules rs).ids.toFinset = (rs.map Rule.id).toFinset := by
    ext i
    rw [ids_ofRules, List.mem_toFinset, List.mem_toFinset, List.mem_eraseDups]
  have hnodup : (ofRules rs).ids.Nodup := (ofRules rs).nodup_ids
  rw [← hids, List.toFinset_card_of_nodup hnodup, ids, size, List.length_map]

/-- **A rule set collects some rules**: it has their identifiers, each where it comes up
first, and under each of them the last rule that has it. -/
structure Collects (s : RuleSet P) (rs : List (Rule P)) : Prop where
  ids_eq : s.ids = (rs.map Rule.id).eraseDups
  ids_nodup : s.ids.Nodup
  size_eq : s.size = (rs.map Rule.id).toFinset.card
  get?_eq (id : String) : s.get? id = (rs.filter (·.id == id)).getLast?

theorem collects_ofRules (rs : List (Rule P)) : (ofRules rs).Collects rs where
  ids_eq := ids_ofRules rs
  ids_nodup := (ofRules rs).nodup_ids
  size_eq := size_ofRules rs
  get?_eq := get?_ofRules rs

/-- **A merge collects the rules of all its rule sets**, and the rule set of some rules
collects these. -/
theorem merge_collects (sets : List (RuleSet P)) (rs : List (Rule P)) :
    (merge sets).Collects (sets.flatMap rules) ∧ (ofRules rs).Collects rs := by
  rw [merge_eq_ofRules]
  exact ⟨collects_ofRules (sets.flatMap rules), collects_ofRules rs⟩

/-! ### Rules with distinct identifiers -/

theorem rules_insertAll {s : RuleSet P} {rs : List (Rule P)}
    (h : ((s.rules ++ rs).map Rule.id).Nodup) : (s.insertAll rs).rules = s.rules ++ rs := by
  induction rs generalizing s with
  | nil => exact (List.append_nil _).symm
  | cons r rs ih =>
    have hfresh : r.id ∉ s.rules.map Rule.id := by
      rw [List.map_append, List.nodup_append] at h
      exact fun hmem => h.2.2 r.id hmem r.id List.mem_cons_self rfl
    have hinsert : (s.insert r).rules = s.rules ++ [r] := Rule.insertInto_of_notMem hfresh
    rw [← List.singleton_append, ← List.append_assoc, ← hinsert] at h
    rw [insertAll, List.foldl_cons]
    refine (ih h).trans ?_
    rw [hinsert, List.append_assoc, List.singleton_append]

/-- **Rules with distinct identifiers** are what their rule set holds. -/
theorem rules_ofRules {rs : List (Rule P)} (h : (rs.map Rule.id).Nodup) :
    (ofRules rs).rules = rs := by
  rw [ofRules_eq_insertAll]
  exact rules_insertAll h

/-- Every rule set is the one of its rules. -/
theorem ofRules_rules (s : RuleSet P) : ofRules s.rules = s :=
  ext_rules (rules_ofRules s.nodup_ids)

end RuleSet

end GnuLint
