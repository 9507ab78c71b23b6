import GnuLint.Proofs.Rule.Definition
import GnuLint.Rule.Document
import Mathlib.Data.List.Forall2

/-!
# Rules documents are read all or nothing

A rules document makes a rule set only if each of its definitions is valid, and then all of
them are in it (`GnuLint.RuleSet.ofDocumentWith_of_definitions`). If several definitions are not
valid, the document is refused for the first of them, and for the first check that this one
violates; the place of a definition is the number of definitions before it, however often its
identifier comes up.

How a text is read as definitions is not fixed here, nor which texts compile to patterns and what
they compile to. The rules that scripts are checked with are those for
`GnuLint.Definition.ofDocument` and `GnuLint.Pattern.ofString`.
-/

namespace GnuLint.RuleSet

variable {P ε : Type} {compile : String → Except ε P} {ds : List Definition}

/-- **Definitions make rules one by one.** -/
theorem rulesWith_eq_ok_iff {index : Nat} {rs : List (Rule P)} :
    rulesWith compile index ds = .ok rs ↔
      List.Forall₂ (fun d r => Rule.ofDefinitionWith compile d = .ok r) ds rs := by
  induction ds generalizing index rs with
  | nil =>
    rw [rulesWith, List.forall₂_nil_left_iff, Except.ok.injEq, eq_comm]
  | cons d ds ih =>
    rw [rulesWith, List.forall₂_cons_left_iff]
    cases Rule.ofDefinitionWith compile d with
    | error cause => simp
    | ok r =>
      simp only [map_eq_ok_iff, ih, Except.ok.injEq]
      constructor
      · rintro ⟨rs, hrs, rfl⟩
        exact ⟨r, rs, rfl, hrs, rfl⟩
      · rintro ⟨r', rs, rfl, hrs, rfl⟩
        exact ⟨rs, hrs, rfl⟩

/-- **The first definition that makes no rule refuses the others**, and its place is counted
from the index on. -/
theorem rulesWith_eq_error_iff {index : Nat} {e : DocumentError ε} :
    rulesWith compile index ds = .error e ↔
      ∃ before d after cause, ds = before ++ d :: after ∧
        e = .invalidRule (index + before.length) d.id cause ∧
        (∀ b ∈ before, ∃ r, Rule.ofDefinitionWith compile b = .ok r) ∧
        Rule.ofDefinitionWith compile d = .error cause := by
  induction ds generalizing index with
  | nil => simp [rulesWith]
  | cons d ds ih =>
    rw [rulesWith]
    cases hd : Rule.ofDefinitionWith compile d with
    | error cause =>
      constructor
      · rintro ⟨⟩
        exact ⟨[], d, ds, cause, rfl, rfl, by simp, hd⟩
      · rintro ⟨before, d', after, cause', hsplit, rfl, hbefore, hcause⟩
        cases before with
        | nil =>
          obtain ⟨rfl, rfl⟩ := List.cons.inj hsplit
          rw [Except.error.inj (hd.symm.trans hcause)]
          rfl
        | cons b before =>
          obtain ⟨rfl, -⟩ := List.cons.inj hsplit
          obtain ⟨r, hr⟩ := hbefore d List.mem_cons_self
          cases hd.symm.trans hr
    | ok r =>
      rw [map_eq_error_iff, ih]
      constructor
      · rintro ⟨before, d', after, cause, rfl, rfl, hbefore, hcause⟩
        refine ⟨d :: before, d', after, cause, rfl, ?_, ?_, hcause⟩
        · rw [List.length_cons, Nat.add_right_comm, Nat.add_assoc]
        · exact List.forall_mem_cons.mpr ⟨⟨r, hd⟩, hbefore⟩
      · rintro ⟨before, d', after, cause, hsplit, rfl, hbefore, hcause⟩
        cases before with
        | nil =>
          obtain ⟨rfl, -⟩ := List.cons.inj hsplit
          cases hd.symm.trans hcause
        | cons b before =>
          obtain ⟨rfl, rfl⟩ := List.cons.inj hsplit
          refine ⟨before, d', after, cause, rfl, ?_, (List.forall_mem_cons.mp hbefore).2, hcause⟩
          rw [List.length_cons, Nat.add_right_comm, Nat.add_assoc]

/-! ### Rule sets -/

/-- **Valid definitions make a rule set of all their rules**, in order. -/
theorem ofDefinitionsWith_eq_ok_iff {s : RuleSet P} :
    ofDefinitionsWith compile ds = .ok s ↔ (∀ d ∈ ds, d.IsValid compile) ∧
      ∃ rs, List.Forall₂ (fun d (r : Rule P) => r.IsOf compile d) ds rs ∧ s = ofRules rs := by
  rw [ofDefinitionsWith, map_eq_ok_iff]
  simp only [rulesWith_eq_ok_iff, Rule.ofDefinitionWith_eq_ok_iff, List.forall₂_and_left]
  constructor
  · rintro ⟨rs, ⟨hvalid, hrs⟩, rfl⟩
    exact ⟨hvalid, rs, hrs, rfl⟩
  · rintro ⟨hvalid, rs, hrs, rfl⟩
    exact ⟨rs, ⟨hvalid, hrs⟩, rfl⟩

/-- **Definitions are refused for the first one that is not valid**, and for the first check
that this one violates. -/
theorem ofDefinitionsWith_eq_error_iff {e : DocumentError ε} :
    ofDefinitionsWith compile ds = .error e ↔
      ∃ before d after check cause, ds = before ++ d :: after ∧
        e = .invalidRule before.length d.id cause ∧
        (∀ b ∈ before, b.IsValid compile) ∧ d.FirstViolation compile check cause := by
  rw [ofDefinitionsWith, map_eq_error_iff, rulesWith_eq_error_iff]
  simp only [Rule.exists_ofDefinitionWith_iff, Rule.ofDefinitionWith_eq_error_iff, Nat.zero_add]
  constructor
  · rintro ⟨before, d, after, cause, hds, he, hbefore, check, hcheck⟩
    exact ⟨before, d, after, check, cause, hds, he, hbefore, hcheck⟩
  · rintro ⟨before, d, after, check, cause, hds, he, hbefore, hcheck⟩
    exact ⟨before, d, after, cause, hds, he, hbefore, check, hcheck⟩

/-- Definitions make a rule set exactly if all of them are valid. -/
theorem exists_ofDefinitionsWith_iff :
    (∃ s, ofDefinitionsWith compile ds = .ok s) ↔ ∀ d ∈ ds, d.IsValid compile := by
  constructor
  · rintro ⟨s, hs⟩
    exact (ofDefinitionsWith_eq_ok_iff.mp hs).1
  · intro hvalid
    refine exists_ok_iff.mpr fun e he => ?_
    obtain ⟨before, d, after, check, cause, rfl, -, -, hviolates, -⟩ :=
      ofDefinitionsWith_eq_error_iff.mp he
    have hd := hvalid d (List.mem_append_right before List.mem_cons_self)
    exact Definition.isValid_iff.mp hd check cause hviolates

/-- **A rules document is read all or nothing**, whatever reads its definitions and compiles their
patterns. A document with some definitions has a rule set exactly if all of them are valid, and
this is the rule set of all their rules, in order. Otherwise it is refused for the first definition
that is not valid, which is named by its place and its identifier, and for the first check that
this definition violates. -/
theorem ofDocumentWith_of_definitions (compile : String → Except ε P)
    (read : Text → Except Toml.Error (List Definition)) {text : Text} (h : read text = .ok ds) :
    ((∃ s, ofDocumentWith compile read text = .ok s) ↔ ∀ d ∈ ds, d.IsValid compile) ∧
      (∀ s, ofDocumentWith compile read text = .ok s ↔ (∀ d ∈ ds, d.IsValid compile) ∧
        ∃ rs, List.Forall₂ (fun d (r : Rule P) => r.IsOf compile d) ds rs ∧ s = ofRules rs) ∧
      ∀ e, ofDocumentWith compile read text = .error e ↔
        ∃ before d after check cause, ds = before ++ d :: after ∧
          e = .invalidRule before.length d.id cause ∧
          (∀ b ∈ before, b.IsValid compile) ∧ d.FirstViolation compile check cause := by
  have hread : ofDocumentWith compile read text = ofDefinitionsWith compile ds := by
    rw [ofDocumentWith, h]
  rw [hread]
  exact ⟨exists_ofDefinitionsWith_iff, fun _ => ofDefinitionsWith_eq_ok_iff,
    fun _ => ofDefinitionsWith_eq_error_iff⟩

/-- A document in which two definitions of three are not valid, one of them in three ways, and
two have one identifier. -/
def faultyDocument : Text :=
  ("[[rules]]\nid = 'a'\nname = 'A'\npattern = 'x'\nnegative_pattern = ''\n" ++
    "[[rules]]\nid = 'a'\nname = ' '\npattern = '('\nseverity = 'loud'\n" ++
    "[[rules]]\nname = 'C'\n").toList

/-- The definitions in it. -/
def faultyDefinitions : List Definition :=
  [{ id := "a", name := "A", pattern := "x", negativePattern := some "" },
    { id := "a", name := " ", pattern := "(", severity := some "loud" },
    { name := "C" }]

/-- For the patterns that scripts are checked with, it is refused for the blank title. -/
theorem ofDocumentWith_of_definitions_faulty :
    Definition.ofDocument faultyDocument = .ok faultyDefinitions ∧
      (¬∃ s, ofDocument faultyDocument = .ok s) ∧
      ofDocument faultyDocument = .error (.invalidRule 1 "a" (.missingField .name)) := by
  have hparsed : Definition.ofDocument faultyDocument = .ok faultyDefinitions := by
    decide +kernel
  obtain ⟨hexists, -, hrefused⟩ := ofDocumentWith_of_definitions Pattern.ofString _ hparsed
  refine ⟨hparsed, ?_, (hrefused _).mpr
    ⟨faultyDefinitions.take 1, _, faultyDefinitions.drop 2, .name, _, rfl, rfl, ?_, ?_⟩⟩
  · rw [ofDocument, hexists]
    decide +kernel
  · decide +kernel
  · refine ⟨.name (by decide +kernel), [.id], _, rfl, ?_⟩
    simp only [← Definition.fault?_eq_none_iff]
    decide +kernel

end GnuLint.RuleSet
