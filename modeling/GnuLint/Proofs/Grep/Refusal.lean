import GnuLint.Proofs.Grep.LiteralReading

/-!
# Which patterns are refused

The translation of a pattern goes on until it comes to something that has no counterpart, and then
names it. Which patterns it accepts, and what it says of the others, is told here without the
translation. When a pattern is read from left to right, some constructs are met on the way that
extended patterns cannot express (`GnuLint.Grep.Meets`). What is met at a token depends on the
token, on whether a quantifier comes right before it, and on what comes right after it
(`GnuLint.Grep.Token.constructs`): an extended group is met at a parenthesis with a question mark
after it. A bracket expression that is not closed, and a backslash that nothing comes after, are met
at the end.

The main statement is `GnuLint.Grep.toExtended_refuses`: every pattern has one list of constructs
that are met, the translation accepts the pattern exactly if the list is empty, and otherwise the
construct that it names is the first of the list.

It matters how the names of classes are read. Which patterns are accepted comes out the same if they
are read literally, but a backslash after a name that is not closed is then met first
(`GnuLint.Grep.not_explains_unclosedName`).
-/

namespace GnuLint.Grep

variable {c : Char} {s rest : Text} {t : Token} {At : Token → Text → Text → Prop}

/-! ### What is met -/

/-- The construct that a backslash and a character are. Letters and digits have no counterpart but
for those of the classes. -/
def escapeConstruct? (c : Char) : Option Unportable :=
  if c.isAlphanum = false ∨ c ∈ "dDwWsS".toList then none
  else if c ∈ "bBKAzZG".toList then some (.assertion c)
  else if c.isDigit ∧ c ≠ '0' then some (.backreference c)
  else some (.escape c)

/-- The construct that an item of a bracket expression is. There is no escape for a character that
may mean something in a bracket expression, and none for a letter or a digit but for those of the
classes. -/
def BracketItem.construct? : BracketItem → Option Unportable
  | escape c =>
    if c ∈ "]\\^-".toList then some (.bracketLiteral c)
    else if c.isAlphanum ∧ c ∉ "dws".toList then some (.bracketEscape c)
    else none
  | className _ | char _ => none

/-- The construct that the end of a bracket expression is. -/
def BracketEnd.construct? : BracketEnd → Option Unportable
  | closed => none
  | unclosed => some .unclosedBracket
  | backslash => some .trailingBackslash

/-- **The constructs in a token** that extended patterns cannot express, given whether a quantifier
comes before it and what comes after it. -/
def Token.constructs (afterQuantifier : Bool) (rest : Text) : Token → List Unportable
  | escape c => (escapeConstruct? c).toList
  | backslash => [.trailingBackslash]
  | bracket _ items stop => items.filterMap BracketItem.construct? ++ stop.construct?.toList
  | char c =>
    if c = '(' ∧ rest.head? = some '?' then [.groupExtension ('(' :: rest.take 3)]
    else if afterQuantifier ∧ (c = '+' ∨ c = '?') then [.lazyQuantifier c]
    else []
  | groupExtension _ | interval _ => []

/-- **The constructs that are met** when a pattern is read from left to right, token by token. -/
inductive Meets (At : Token → Text → Text → Prop) :
    (afterQuantifier : Bool) → Text → List Unportable → Prop
  /-- At the end. -/
  | nil {afterQuantifier : Bool} : Meets At afterQuantifier [] []
  /-- At a token, and after it. -/
  | token {afterQuantifier : Bool} {s rest : Text} {t : Token} {us : List Unportable} :
    At t s rest → Meets At t.isQuantifier rest us →
      Meets At afterQuantifier s (t.constructs afterQuantifier rest ++ us)

/-- **A way to read patterns**: every text but the empty one begins with one token, which something
is read for. -/
structure IsReading (At : Token → Text → Text → Prop) : Prop where
  exists_token (c : Char) (s : Text) : ∃ t rest, At t (c :: s) rest
  unique {t t' : Token} {s rest rest' : Text} :
    At t s rest → At t' s rest' → t = t' ∧ rest = rest'
  suffix_tail {t : Token} {c : Char} {s rest : Text} : At t (c :: s) rest → rest <:+ s
  not_nil {t : Token} {rest : Text} : ¬At t [] rest

theorem isReading_isAt : IsReading Token.IsAt where
  exists_token c s := ⟨_, _, isAt_piece c s⟩
  unique {t t' s rest rest'} h h' := by
    cases s with
    | nil => cases h
    | cons c s => exact Prod.mk.inj ((isAt_iff.mp h).symm.trans (isAt_iff.mp h'))
  suffix_tail {t c s rest} h := by
    have hsuffix := piece_suffix c s
    rwa [isAt_iff.mp h] at hsuffix
  not_nil h := by cases h

theorem isReading_isLiterallyAt : IsReading Token.IsLiterallyAt where
  exists_token := Token.exists_isLiterallyAt
  unique := Token.IsLiterallyAt.unique
  suffix_tail := Token.IsLiterallyAt.suffix_tail
  not_nil h := by cases h

/-- **A pattern is read in one way**, so that the constructs that are met are determined. -/
theorem IsReading.existsUnique_meets (h : IsReading At) (afterQuantifier : Bool) (p : Text) :
    ∃ us, ∀ vs, Meets At afterQuantifier p vs ↔ vs = us := by
  induction hn : p.length using Nat.strongRecOn generalizing p afterQuantifier with
  | _ n ih =>
    cases p with
    | nil =>
      refine ⟨[], fun vs => ⟨fun hvs => ?_, fun hvs => hvs ▸ .nil⟩⟩
      cases hvs with
      | nil => rfl
      | token hat => exact absurd hat h.not_nil
    | cons c s =>
      obtain ⟨t, rest, hat⟩ := h.exists_token c s
      have hrest : rest.length < n := hn ▸ Nat.lt_succ_of_le (h.suffix_tail hat).length_le
      obtain ⟨us, hus⟩ := ih _ hrest t.isQuantifier rest rfl
      refine ⟨_, fun vs => ⟨fun hvs => ?_, fun hvs => hvs ▸ .token hat ((hus us).mpr rfl)⟩⟩
      cases hvs with
      | token hat' hmore =>
        obtain ⟨rfl, rfl⟩ := h.unique hat hat'
        rw [(hus _).mp hmore]

/-! ### What is reported -/

/-- **An outcome reports some constructs**: it is the first of them, or a success if there is
none. -/
def Reports (outcome : Except Unportable Text) (us : List Unportable) : Prop :=
  match outcome with
  | .ok _ => us = []
  | .error u => us.head? = some u

variable {x : Except Unportable Text} {us vs : List Unportable}

theorem Reports.error_iff (h : Reports x us) (u : Unportable) :
    x = .error u ↔ us.head? = some u := by
  cases x with
  | ok q =>
    obtain rfl : us = [] := h
    simp
  | error v => simp [show us.head? = some v from h]

theorem Reports.ok_iff (h : Reports x us) : (∃ q, x = .ok q) ↔ us = [] := by
  cases x with
  | ok q => exact iff_of_true ⟨q, rfl⟩ h
  | error v =>
    refine iff_of_false (by simp) ?_
    rintro rfl
    cases h

/-- **Two steps report what the first one meets and what the second one meets.** -/
theorem Reports.bind {f : Text → Except Unportable Text} (h : Reports x us)
    (hf : ∀ q, x = .ok q → Reports (f q) vs) : Reports (x >>= f) (us ++ vs) := by
  cases x with
  | ok q =>
    obtain rfl : us = [] := h
    exact hf q rfl
  | error u =>
    have hfirst : us.head? = some u := h
    show (us ++ vs).head? = some u
    rw [List.head?_append, hfirst, Option.some_or]

theorem Reports.pure (h : Reports x us) (f : Text → Text) :
    Reports (do let q ← x; return f q) us := by
  cases x with
  | ok q => exact h
  | error u => exact h

/-! #### Escapes -/

theorem isAssertion_iff : isAssertion c = true ↔ c ∈ "bBKAzZG".toList := by
  simp [isAssertion, or_assoc]

theorem isBackreference_iff : '1' ≤ c ∧ c ≤ '9' ↔ c.isDigit = true ∧ c ≠ '0' := by
  rw [← isDigit_eq, Bool.and_eq_true, decide_eq_true_eq, decide_eq_true_eq]
  constructor
  · rintro ⟨hone, hnine⟩
    refine ⟨⟨Char.le_trans (by decide) hone, hnine⟩, ?_⟩
    rintro rfl
    exact absurd hone (by decide)
  · rintro ⟨⟨hzero, hnine⟩, hne⟩
    have hlt : '0' < c := Std.lt_of_le_of_ne hzero hne.symm
    exact ⟨hlt, hnine⟩

theorem reports_escapeToExtended (c : Char) :
    Reports (escapeToExtended c) (escapeConstruct? c).toList := by
  by_cases hclass : c ∈ "dDwWsS".toList
  · obtain ⟨q, -, hq⟩ := escapeToExtended_of_class hclass
    rw [hq, escapeConstruct?, if_pos (Or.inr hclass)]
    rfl
  have hletters : "bBKAzZG".toList.all Char.isAlphanum = true := by decide
  have hdigits (h : c.isDigit = true) : c.isAlphanum = true := by simp [Char.isAlphanum, h]
  rw [escapeToExtended_of_not_class hclass, escapeConstruct?]
  simp only [isAssertion_iff, isBackreference_iff]
  by_cases halphanum : c.isAlphanum = true
  · have hclass' : ¬(c.isAlphanum = false ∨ c ∈ "dDwWsS".toList) :=
      not_or.mpr ⟨by simp [halphanum], hclass⟩
    rw [if_neg hclass', if_pos halphanum]
    split
    · rfl
    · split <;> rfl
  · have hplain : c.isAlphanum = false := by simpa using halphanum
    have hassertion : c ∉ "bBKAzZG".toList := fun hmem =>
      halphanum (List.all_eq_true.mp hletters c hmem)
    rw [if_neg hassertion, if_neg fun h => halphanum (hdigits h.1), if_neg halphanum,
      if_pos (Or.inl hplain)]
    rfl

theorem BracketItem.reports_toExtended (item : BracketItem) :
    Reports item.toExtended item.construct?.toList := by
  cases item with
  | escape c =>
    rw [toExtended, construct?]
    by_cases hliteral : c ∈ "]\\^-".toList
    · rw [if_pos hliteral, bracketEscape_of_literal hliteral]
      rfl
    rw [if_neg hliteral]
    by_cases hclass : c ∈ "dws".toList
    · obtain ⟨q, -, hq⟩ := bracketEscape_of_class hclass
      rw [hq, if_neg fun h => h.2 hclass]
      rfl
    rw [bracketEscape_of_not_class hclass hliteral]
    by_cases halphanum : c.isAlphanum = true
    · rw [if_pos halphanum, if_pos ⟨halphanum, hclass⟩]
      rfl
    · rw [if_neg halphanum, if_neg fun h => halphanum h.1]
      rfl
  | className => rfl
  | char => rfl

/-! #### Tokens -/

theorem reports_bracketToExtended (items : List BracketItem) (stop : BracketEnd) :
    Reports (bracketToExtended stop items)
      (items.filterMap BracketItem.construct? ++ stop.construct?.toList) := by
  induction items with
  | nil => cases stop <;> rfl
  | cons item items ih =>
    have hsplit : (item :: items).filterMap BracketItem.construct? ++ stop.construct?.toList =
        item.construct?.toList ++
          (items.filterMap BracketItem.construct? ++ stop.construct?.toList) := by
      cases hitem : item.construct? <;> simp [hitem]
    rw [hsplit]
    exact item.reports_toExtended.bind fun first _ => ih.pure (first ++ ·)

/-- **A token reports the constructs in it.** -/
theorem Token.reports_toExtended {afterQuantifier : Bool} (h : t.IsAt s rest)
    (hgroup : ¬(t = .char '(' ∧ rest.head? = some '?')) :
    Reports (t.toExtended afterQuantifier) (t.constructs afterQuantifier rest) := by
  cases h with
  | escape c => exact reports_escapeToExtended c
  | backslash => rfl
  | bracket _ => exact (reports_bracketToExtended _ _).pure _
  | interval => rfl
  | @char c _ _ _ _ =>
    have hgroup' : ¬(c = '(' ∧ rest.head? = some '?') := fun h => hgroup ⟨by rw [h.1], h.2⟩
    rw [toExtended, constructs, if_neg hgroup']
    by_cases hlazy : afterQuantifier = true ∧ (c = '+' ∨ c = '?')
    · rw [if_pos (by simpa using hlazy), if_pos hlazy]
      rfl
    · rw [if_neg (by simpa using hlazy), if_neg hlazy]
      split <;> rfl

/-! ### Patterns -/

/-- **The translation of a pattern reports what is met in it.** -/
theorem reports_tokensToExtended {afterQuantifier : Bool} {p : Text}
    (h : Meets Token.IsAt afterQuantifier p us) :
    Reports (tokensToExtended afterQuantifier (tokens p)) us := by
  induction h with
  | nil => rfl
  | @token afterQuantifier s rest t us hat _ ih =>
    cases s with
    | nil => cases hat
    | cons c s =>
      by_cases hgroup : c = '(' ∧ s.head? = some '?'
      · -- the translation ends here, with the whole beginning of the group
        obtain ⟨rfl, hs⟩ := hgroup
        have hpiece : piece '(' s = (.char '(', s) := rfl
        obtain ⟨rfl, rfl⟩ := Prod.mk.inj (hpiece.symm.trans (piece_of_isAt hat))
        have htoken : token '(' s = (.groupExtension ('(' :: s.take 3), s.drop 3) := if_pos hs
        rw [tokens_cons, htoken]
        have hmet : (Token.char '(').constructs afterQuantifier s =
            [.groupExtension ('(' :: s.take 3)] := if_pos ⟨rfl, hs⟩
        rw [hmet]
        rfl
      · have htoken := (piece_eq_token hgroup).symm.trans (piece_of_isAt hat)
        have hgroup' : ¬(t = .char '(' ∧ rest.head? = some '?') := by
          rintro ⟨rfl, hrest⟩
          cases hat
          exact hgroup ⟨rfl, hrest⟩
        rw [tokensToExtended_cons, htoken]
        exact (Token.reports_toExtended hat hgroup').bind fun first _ => ih.pure (first ++ ·)

/-- **A way to read patterns explains what becomes of one**: one list of constructs is met in it.
The pattern is accepted exactly if nothing is met, and refused with the first construct of the
list otherwise. -/
def Explains (At : Token → Text → Text → Prop) (p : Text) : Prop :=
  ∃ us, (∀ vs, Meets At false p vs ↔ vs = us) ∧
    ((∃ q, toExtended p = .ok q) ↔ us = []) ∧
    ∀ u, toExtended p = .error u ↔ us.head? = some u

theorem explains_isAt (p : Text) : Explains Token.IsAt p := by
  obtain ⟨us, hus⟩ := isReading_isAt.existsUnique_meets false p
  have hreports : Reports (toExtended p) us := reports_tokensToExtended ((hus us).mpr rfl)
  exact ⟨us, hus, hreports.ok_iff, hreports.error_iff⟩

/-! #### Names of classes that are read literally -/

/-- A bracket expression in which nothing is met is closed. -/
theorem Token.stop_of_constructs {afterQuantifier negated : Bool} {items : List BracketItem}
    {stop : BracketEnd}
    (h : (bracket negated items stop).constructs afterQuantifier rest = []) : stop = .closed := by
  have hstop : stop.construct?.toList = [] := (List.append_eq_nil_iff.mp h).2
  cases stop with
  | closed => rfl
  | unclosed => cases hstop
  | backslash => cases hstop

theorem Meets.nil_of_nil {At' : Token → Text → Text → Prop} {afterQuantifier : Bool} {p : Text}
    {us : List Unportable} (h : Meets At afterQuantifier p us) (hnil : us = [])
    (hat : ∀ {t : Token} {afterQuantifier : Bool} {s rest : Text},
      t.constructs afterQuantifier rest = [] → At t s rest → At' t s rest) :
    Meets At' afterQuantifier p [] := by
  induction h with
  | nil => exact .nil
  | @token afterQuantifier s rest t us htoken _ ih =>
    obtain ⟨hconstructs, hus⟩ := List.append_eq_nil_iff.mp hnil
    have hmeets : Meets At' afterQuantifier s (t.constructs afterQuantifier rest ++ []) :=
      .token (hat hconstructs htoken) (ih hus)
    rwa [hconstructs, List.nil_append] at hmeets

/-- **In the same patterns nothing is met**, whichever way the names of classes are read. -/
theorem meets_literally_nil_iff {afterQuantifier : Bool} {p : Text} :
    Meets Token.IsLiterallyAt afterQuantifier p [] ↔ Meets Token.IsAt afterQuantifier p [] := by
  have hclosed {t : Token} {afterQuantifier : Bool} {rest : Text}
      (h : t.constructs afterQuantifier rest = []) (negated : Bool) (items : List BracketItem)
      (stop : BracketEnd) (ht : t = .bracket negated items stop) : stop = .closed := by
    subst ht
    exact Token.stop_of_constructs h
  constructor
  · intro h
    exact h.nil_of_nil rfl fun hconstructs => (Token.isLiterallyAt_iff (hclosed hconstructs)).mp
  · intro h
    exact h.nil_of_nil rfl fun hconstructs => (Token.isLiterallyAt_iff (hclosed hconstructs)).mpr

/-- **Which patterns are refused, and why.** If the name of a class that is not closed goes on to
the end of the pattern, what is met explains what becomes of the pattern. If names are read
literally, what is met still tells which patterns are accepted. -/
theorem toExtended_refuses (p : Text) :
    Explains Token.IsAt p ∧
      ∃ us, (∀ vs, Meets Token.IsLiterallyAt false p vs ↔ vs = us) ∧
        ((∃ q, toExtended p = .ok q) ↔ us = []) := by
  refine ⟨explains_isAt p, ?_⟩
  obtain ⟨vs, hvs, hok, -⟩ := explains_isAt p
  obtain ⟨us, hus⟩ := isReading_isLiterallyAt.existsUnique_meets false p
  refine ⟨us, hus, ?_⟩
  rw [hok, eq_comm, ← hvs, ← meets_literally_nil_iff, hus, eq_comm]

/-- **A name that is not closed** hides what comes after it. -/
theorem toExtended_of_unclosedName {name : Text} (h : ']' ∉ name) :
    toExtended ("[[:".toList ++ name) = .error .unclosedBracket := by
  have hsplit := splitBracket_of_notMem (s := ':' :: name) (by simp [h])
  have hitems : ItemsAt true ('[' :: ':' :: name) [.className (':' :: name)] .unclosed [] :=
    .item (fun _ => rfl) (.className hsplit) .unclosed
  have hat : (Token.bracket false [.className (':' :: name)] .unclosed).IsAt
      ('[' :: '[' :: ':' :: name) [] := .bracket (s := '[' :: ':' :: name) hitems
  have hmeets : Meets Token.IsAt false ('[' :: '[' :: ':' :: name) [.unclosedBracket] :=
    .token hat .nil
  exact ((reports_tokensToExtended hmeets).error_iff _).mpr rfl

/-- In the literal reading, the backslash comes first that the name hides. -/
theorem not_explains_unclosedName :
    Meets Token.IsLiterallyAt false "[[:a\\".toList [.trailingBackslash] ∧
      toExtended "[[:a\\".toList = .error .unclosedBracket ∧
      ¬Explains Token.IsLiterallyAt "[[:a\\".toList := by
  have hchar {c : Char} {s : Text} (hc : c ≠ '\\') (hs : ']' ∉ s) :
      (BracketItem.char c).IsLiterallyAt (c :: s) s := .char hc fun h => hs h.2.2
  have hitems : LiteralItemsAt true "[:a\\".toList [.char '[', .char ':', .char 'a'] .backslash
      [] :=
    .item (by decide) (hchar (by decide) (by decide)) <|
      .item (by decide) (hchar (by decide) (by decide)) <|
      .item (by decide) (hchar (by decide) (by decide)) .backslash
  have hat : (Token.bracket false [.char '[', .char ':', .char 'a'] .backslash).IsLiterallyAt
      "[[:a\\".toList [] := .bracket (s := "[:a\\".toList) hitems
  have hmeets : Meets Token.IsLiterallyAt false "[[:a\\".toList [.trailingBackslash] :=
    .token hat .nil
  have hrefused : toExtended "[[:a\\".toList = .error .unclosedBracket :=
    toExtended_of_unclosedName (by decide)
  refine ⟨hmeets, hrefused, ?_⟩
  rintro ⟨us, hus, -, herror⟩
  obtain rfl := (hus _).mp hmeets
  cases (herror _).mp hrefused

/-- In a bracket expression that is not closed, an escape is met before the end. -/
example : toExtended "x\x7b[a\\tb".toList = .error (.bracketEscape 't') := by decide +kernel

end GnuLint.Grep
