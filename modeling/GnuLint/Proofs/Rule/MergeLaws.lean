import GnuLint.Proofs.Rule.Merge

/-!
# The laws of merging

Merging is associative, an empty rule set does not count, and merging with itself or with an
overriding set once more changes nothing (`GnuLint.RuleSet.merge_laws`). Since an identifier
stands where it first came up while its rule is the one that came last, neither end of the
input can be dropped, and the laws do not follow from one of them.

What carries them is that a rule set can stand for the rules that it was made of: adding its
rules comes to the same as adding those (`GnuLint.RuleSet.insertAll_ofRules`). This holds
because a rule whose identifier is in use may be added earlier or later, as long as no other
rule with its identifier comes between (`GnuLint.RuleSet.insert_comm`).
-/

namespace GnuLint

namespace RuleSet

/-! ### Rules that are added earlier or later -/

section Exchange

variable {s : RuleSet} {q r : Rule} {qs rs : List Rule}

theorem insert_of_mem (h : r ∈ s.rules) : s.insert r = s := by
  refine eq_of_views (ids_insert_of_mem (List.mem_map_of_mem h)) fun i => ?_
  rw [get?_insert]
  by_cases hi : r.id = i
  · rw [if_pos hi, get?_eq_some_iff.mpr ⟨h, hi⟩]
  · rw [if_neg hi]

theorem insertAll_of_subset (h : rs ⊆ s.rules) : s.insertAll rs = s := by
  induction rs with
  | nil => rfl
  | cons r rs ih =>
    rw [List.cons_subset] at h
    rw [insertAll_cons, insert_of_mem h.1, ih h.2]

/-- Of two rules with one identifier, the later one is left. -/
theorem insert_insert (h : q.id = r.id) : (s.insert q).insert r = s.insert r := by
  refine eq_of_views ?_ fun i => ?_
  · rw [ids_insert_of_mem (mem_ids_insert.mpr (Or.inl h.symm)), ids_insert, ids_insert, h]
  · rw [get?_insert, get?_insert, get?_insert, h]
    by_cases hi : r.id = i <;> simp [hi]

/-- **Two rules may change places** if one of them has an identifier in use and the other one
has another identifier: the first will not move, so it is no matter when the other one
comes. -/
theorem insert_comm (hr : r.id ∈ s.ids) (h : q.id ≠ r.id) :
    (s.insert q).insert r = (s.insert r).insert q := by
  refine eq_of_views ?_ fun i => ?_
  · rw [ids_insert_of_mem (mem_ids_insert.mpr (Or.inr hr)), ids_insert, ids_insert,
      ids_insert_of_mem hr]
  · rw [get?_insert, get?_insert, get?_insert, get?_insert]
    by_cases hi : r.id = i
    · have hq : q.id ≠ i := hi ▸ h
      simp [hi, hq]
    · simp [hi]

theorem insert_insertAll (hr : r.id ∈ s.ids) (h : r.id ∉ qs.map Rule.id) :
    (s.insertAll qs).insert r = (s.insert r).insertAll qs := by
  induction qs generalizing s with
  | nil => rfl
  | cons q qs ih =>
    rw [List.map_cons, List.mem_cons, not_or] at h
    rw [insertAll_cons, insertAll_cons, ih (mem_ids_insert.mpr (Or.inr hr)) h.2,
      insert_comm hr (Ne.symm h.1)]

/-- A rule that is put in the place of another one may as well be added last. -/
theorem insertAll_insertInto (h : (qs.map Rule.id).Nodup) :
    s.insertAll (r.insertInto qs) = (s.insertAll qs).insert r := by
  induction qs generalizing s with
  | nil => rfl
  | cons q qs ih =>
    rw [List.map_cons, List.nodup_cons] at h
    by_cases hq : q.id = r.id
    · -- `r` has come to the place of `q` and is carried past all of `qs`; it can be, because `q`
      -- would have put its identifier there first
      have hmem : r.id ∈ (s.insert q).ids := mem_ids_insert.mpr (Or.inl hq.symm)
      rw [Rule.insertInto, if_pos hq, insertAll_cons, insertAll_cons,
        insert_insertAll hmem (hq ▸ h.1), insert_insert hq]
    · rw [Rule.insertInto, if_neg hq, insertAll_cons, insertAll_cons, ih h.2]

end Exchange

/-- **A rule set can stand for the rules that it was made of.** -/
theorem insertAll_ofRules (s : RuleSet) (rs : List Rule) :
    s.insertAll (ofRules rs).rules = s.insertAll rs := by
  induction rs using List.reverseRecOn with
  | nil => rfl
  | append_singleton rs r ih =>
    calc s.insertAll (ofRules (rs ++ [r])).rules
        = s.insertAll (r.insertInto (ofRules rs).rules) := by rw [ofRules_concat, insert]
      _ = (s.insertAll (ofRules rs).rules).insert r := insertAll_insertInto (ofRules rs).nodup_ids
      _ = (s.insertAll rs).insert r := by rw [ih]
      _ = s.insertAll (rs ++ [r]) := (insertAll_append s rs [r]).symm

/-! ### Merges of merges -/

theorem insertAll_merge (s : RuleSet) (sets : List RuleSet) :
    s.insertAll (merge sets).rules = s.insertAll (sets.flatMap rules) := by
  rw [merge_eq_ofRules, insertAll_ofRules]

theorem insertAll_merges (s : RuleSet) (setss : List (List RuleSet)) :
    s.insertAll ((setss.map merge).flatMap rules) = s.insertAll (setss.flatten.flatMap rules) := by
  induction setss generalizing s with
  | nil => rfl
  | cons sets setss ih =>
    rw [List.map_cons, List.flatMap_cons, insertAll_append, insertAll_merge, ih,
      List.flatten_cons, List.flatMap_append, insertAll_append]

/-- **A merge of merges** is the merge of all that went into them. -/
theorem merge_map_merge (setss : List (List RuleSet)) :
    merge (setss.map merge) = merge setss.flatten := by
  rw [merge_eq_ofRules, merge_eq_ofRules, ofRules_eq_insertAll, ofRules_eq_insertAll,
    insertAll_merges]

theorem merge_singleton (s : RuleSet) : merge [s] = s := by
  rw [merge_eq_ofRules, List.flatMap_singleton, ofRules_rules]

theorem overriddenBy_eq_ofRules (a b : RuleSet) :
    a.overriddenBy b = ofRules (a.rules ++ b.rules) := by
  rw [overriddenBy, merge_eq_ofRules, List.flatMap_cons, List.flatMap_singleton]

theorem overriddenBy_eq_insertAll (a b : RuleSet) : a.overriddenBy b = a.insertAll b.rules := by
  rw [overriddenBy_eq_ofRules, ofRules_eq_insertAll, insertAll_append, ← ofRules_eq_insertAll,
    ofRules_rules]

end RuleSet

/-- Rule sets that are merged in several steps: one of them as it is, or a merge of what some
branches come to. -/
inductive MergeTree
  /-- A rule set as it is. -/
  | leaf (s : RuleSet)
  /-- A merge. -/
  | node (branches : List MergeTree)

namespace MergeTree

mutual
/-- What the merges come to. -/
def result : MergeTree → RuleSet
  | leaf s => s
  | node branches => RuleSet.merge (results branches)

/-- What the merges of each of some trees come to. -/
def results : List MergeTree → List RuleSet
  | [] => []
  | t :: ts => t.result :: results ts
end

mutual
/-- The rule sets that are merged, from the first to the last. -/
def sets : MergeTree → List RuleSet
  | leaf s => [s]
  | node branches => allSets branches

/-- The rule sets that are merged in some trees. -/
def allSets : List MergeTree → List RuleSet
  | [] => []
  | t :: ts => t.sets ++ allSets ts
end

theorem allSets_eq_flatten (ts : List MergeTree) : allSets ts = (ts.map sets).flatten := by
  induction ts with
  | nil => rfl
  | cons t ts ih => rw [allSets, ih, List.map_cons, List.flatten_cons]

mutual
/-- **Merges in several steps** come to the one merge of all that goes into them. -/
theorem result_eq_merge : (t : MergeTree) → t.result = RuleSet.merge t.sets
  | leaf s => (RuleSet.merge_singleton s).symm
  | node branches => by
    -- the branches are merges by induction, and one step of merging is left
    rw [result, sets, results_eq_map, RuleSet.merge_map_merge, allSets_eq_flatten]

theorem results_eq_map : (ts : List MergeTree) → results ts = (ts.map sets).map RuleSet.merge
  | [] => rfl
  | t :: ts => by
    rw [results, result_eq_merge t, results_eq_map ts, List.map_cons, List.map_cons]
end

end MergeTree

namespace RuleSet

theorem overriddenBy_assoc (a b c : RuleSet) :
    (a.overriddenBy b).overriddenBy c = a.overriddenBy (b.overriddenBy c) := by
  have hleft := merge_map_merge [[a, b], [c]]
  have hright := merge_map_merge [[a], [b, c]]
  rw [List.map_cons, List.map_singleton, merge_singleton] at hleft
  rw [List.map_cons, List.map_singleton, merge_singleton] at hright
  exact hleft.trans hright.symm

theorem overriddenBy_self (a : RuleSet) : a.overriddenBy a = a := by
  rw [overriddenBy_eq_insertAll, insertAll_of_subset (List.Subset.refl a.rules)]

theorem merge_append_empty_cons (before after : List RuleSet) :
    merge (before ++ empty :: after) = merge (before ++ after) := by
  rw [merge_eq_ofRules, merge_eq_ofRules, List.flatMap_append, List.flatMap_append,
    List.flatMap_cons]
  rfl

theorem mem_ids_overriddenBy {a b : RuleSet} {i : String} :
    i ∈ (a.overriddenBy b).ids ↔ i ∈ a.ids ∨ i ∈ b.ids := by
  rw [overriddenBy_eq_ofRules, ids_ofRules, List.mem_eraseDups, List.map_append, List.mem_append,
    ids, ids]

/-- **The laws of merging.** It does not matter in which steps rule sets are merged, empty
rule sets do not count, a rule set is not changed by itself nor twice by another one, and the
identifiers of two rule sets come together in either order. -/
theorem merge_laws (a b c : RuleSet) (before after : List RuleSet)
    (setss : List (List RuleSet)) (t : MergeTree) :
    t.result = merge t.sets ∧
    merge (setss.map merge) = merge setss.flatten ∧
    (a.overriddenBy b).overriddenBy c = a.overriddenBy (b.overriddenBy c) ∧
    merge (before ++ empty :: after) = merge (before ++ after) ∧
    empty.overriddenBy a = a ∧
    a.overriddenBy empty = a ∧
    a.overriddenBy a = a ∧
    (a.overriddenBy b).overriddenBy b = a.overriddenBy b ∧
    ∀ i, i ∈ (a.overriddenBy b).ids ↔ i ∈ (b.overriddenBy a).ids := by
  refine ⟨t.result_eq_merge, merge_map_merge setss, overriddenBy_assoc a b c,
    merge_append_empty_cons before after, ?_, ?_, overriddenBy_self a, ?_, fun i => ?_⟩
  · exact (merge_append_empty_cons [] [a]).trans (merge_singleton a)
  · exact (merge_append_empty_cons [a] []).trans (merge_singleton a)
  · rw [overriddenBy_assoc, overriddenBy_self]
  · rw [mem_ids_overriddenBy, mem_ids_overriddenBy, or_comm]

end RuleSet

end GnuLint
