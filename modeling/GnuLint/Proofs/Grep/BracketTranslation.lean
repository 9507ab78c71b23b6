import GnuLint.Proofs.Grep.Bracket
import GnuLint.Proofs.Grep.Translation
import Mathlib.Data.List.Chain

/-!
# Translated bracket expressions

The translation of a bracket expression goes item by item and never looks at two of them
together. What it writes is a spelling of the members of the expression
(`GnuLint.Grep.Spells`, `GnuLint.Grep.spells_of_members?`), but not always the spelling of
these members alone: an extended pattern may take a hyphen for a range, and a bracket and
what follows it for the beginning of a class. Three conditions keep the members apart
(`GnuLint.Grep.IsPortable`):

* the classes that are spelled by name are closed and have names that extended patterns
  know;
* no member begins with a hyphen, except for the first one, and for the last one if it is
  nothing but a hyphen;
* no member that ends with an opening bracket is followed by one that begins with a colon,
  a dot or an equals sign.

Under these conditions the translated expression ends where the original does, and stands
for the same characters (`GnuLint.Grep.holds_toExtended`). Without the second condition it
need not stand for the same characters, although the translation accepts it
(`GnuLint.Grep.holds_toExtended_hyphen`).
-/

namespace GnuLint.Grep

variable {c e : Char} {p s rest text after : Text} {m : Member} {ms : List Member}

/-! ### Spellings of members -/

/-- **A spelling of some members** and of the closing bracket after them; `isFirst` says
whether nothing comes before them, in which case they may begin with a closing bracket. -/
inductive Spells : (isFirst : Bool) → Text → List Member → Prop
  /-- The closing bracket. -/
  | close : Spells false [']'] []
  /-- A character. -/
  | char {isFirst : Bool} {c : Char} {text : Text} {ms : List Member} :
    (c = ']' → isFirst = true) → Spells false text ms →
      Spells isFirst (c :: text) (.char c :: ms)
  /-- A range. -/
  | range {isFirst : Bool} {c e : Char} {text : Text} {ms : List Member} :
    (c = ']' → isFirst = true) → e ≠ ']' → ¬e < c → Spells false text ms →
      Spells isFirst (c :: '-' :: e :: text) (.range c e :: ms)
  /-- The digits. -/
  | digits {isFirst : Bool} {text : Text} {ms : List Member} :
    Spells false text ms → Spells isFirst ("0-9".toList ++ text) (.among Char.isDigit :: ms)
  /-- The characters of words. -/
  | word {isFirst : Bool} {text : Text} {ms : List Member} :
    Spells false text ms → Spells isFirst ("[:alnum:]_".toList ++ text) (.among isWord :: ms)
  /-- A class with a name. -/
  | name {isFirst : Bool} {n : Text} {chars : Char → Bool} {text : Text} {ms : List Member} :
    className? n = some chars → Spells false text ms →
      Spells isFirst ("[:".toList ++ n ++ ":]".toList ++ text) (.among chars :: ms)

/-- Whether some members may come after others: none of them begins with a hyphen, unless
it is the last one and nothing but a character. -/
def mayFollow : List Member → Bool
  | [] => true
  | [.char _] => true
  | m :: ms => m.first? != some '-' && mayFollow ms

theorem mayFollow_tail (h : mayFollow (m :: ms) = true) : mayFollow ms = true := by
  cases ms with
  | nil => rfl
  | cons m' ms => cases m <;> exact (Bool.and_eq_true_iff.mp h).2

/-- Whether a character after an opening bracket makes the beginning of a class. -/
def opensClass (c : Char) : Bool := c == ':' || c == '.' || c == '='

/-- Two members that are next to each other do not make the beginning of a class. -/
def Member.Joins (m m' : Member) : Prop :=
  m.last? = some '[' → m'.first?.any opensClass = false

instance (m m' : Member) : Decidable (m.Joins m') :=
  inferInstanceAs (Decidable (m.last? = some '[' → m'.first?.any opensClass = false))

/-- **Some members are kept apart**, the first of them being the first of all or not. -/
structure AreApart (isFirst : Bool) (ms : List Member) : Prop where
  /-- Hyphens that are no members of their own are at the ends. -/
  hyphens : mayFollow (if isFirst then ms.tail else ms) = true
  /-- No two members make the beginning of a class. -/
  joins : ms.IsChain Member.Joins

instance (isFirst : Bool) (ms : List Member) : Decidable (AreApart isFirst ms) :=
  decidable_of_iff (mayFollow (if isFirst then ms.tail else ms) = true ∧ ms.IsChain Member.Joins)
    ⟨fun h => ⟨h.1, h.2⟩, fun h => ⟨h.hyphens, h.joins⟩⟩

theorem AreApart.more {isFirst : Bool} (h : AreApart isFirst (m :: ms)) : AreApart false ms := by
  have hjoins := (List.isChain_cons.mp h.joins).2
  cases isFirst with
  | true => exact ⟨h.hyphens, hjoins⟩
  | false => exact ⟨mayFollow_tail h.hyphens, hjoins⟩

/-! ### What an extended pattern makes of a spelling -/

/-- A spelling begins like its first member. -/
theorem head?_of_spells {isFirst : Bool} (h : Spells isFirst text ms)
    (hc : (text ++ after).head? = some c) :
    c = ']' ∨ c = '0' ∨ c = '[' ∨ ∃ m ∈ ms.head?, m.first? = some c := by
  cases h with
  | close => exact .inl (Option.some.inj hc).symm
  | char => exact .inr (.inr (.inr ⟨_, rfl, hc⟩))
  | range => exact .inr (.inr (.inr ⟨_, rfl, hc⟩))
  | digits => exact .inr (.inl (Option.some.inj hc).symm)
  | word => exact .inr (.inr (.inl (Option.some.inj hc).symm))
  | name => exact .inr (.inr (.inl (Option.some.inj hc).symm))

/-- Members that may follow others are not taken for the end of a range. -/
theorem hasHyphenInside_of_spells {isFirst : Bool} (h : Spells isFirst text ms)
    (hms : mayFollow ms = true) : hasHyphenInside (text ++ after) = false := by
  cases h with
  | close => rfl
  | @char _ c text ms _ hmore =>
    by_cases hc : c = '-'
    · subst hc
      cases ms with
      | nil =>
        cases hmore
        rfl
      | cons m ms => simp [mayFollow, Member.first?] at hms
    · simp [hasHyphenInside, hc]
  | @range _ c e text ms =>
    have hc : c ≠ '-' := by
      rintro rfl
      simp [mayFollow, Member.first?] at hms
    simp [hasHyphenInside, hc]
  | digits => rfl
  | word => rfl
  | name => rfl

theorem AreApart.isFirst_of_spells {isFirst : Bool} (h : AreApart isFirst ms)
    (hs : Spells isFirst text ms) (after : Text)
    (hinside : hasHyphenInside (text ++ after) = true) : isFirst = true := by
  cases isFirst with
  | true => rfl
  | false =>
    rw [hasHyphenInside_of_spells hs h.hyphens] at hinside
    cases hinside

/-- A character that begins no class is a single character. -/
theorem extendedElement?_cons
    (h : c = '[' → s.head?.any opensClass = false) :
    extendedElement? (c :: s) = some (.single c, s) := by
  unfold extendedElement?
  split <;> simp_all [opensClass]

theorem splitBracket_append (hname : ']' ∉ text) (s : Text) :
    splitBracket (text ++ ']' :: s) = (text ++ [']'], s) := by
  induction text with
  | nil => rfl
  | cons c text ih =>
    obtain ⟨hc, htext⟩ := not_or.mp (mt List.mem_cons.mpr hname)
    rw [List.cons_append, splitBracket, ih htext]
    · rfl
    · exact fun h => hc h.symm

theorem closedName?_append (name : Text) : closedName? (name ++ ":]".toList) = some name := by
  have hreverse : (name ++ ":]".toList).reverse = ']' :: ':' :: name.reverse := by simp
  rw [closedName?, hreverse]
  exact congrArg some name.reverse_reverse

/-- The names of the classes of extended patterns. -/
def classNames : List Text :=
  ["alnum", "alpha", "blank", "cntrl", "digit", "graph", "lower", "print", "punct", "space",
    "upper", "xdigit"].map String.toList

theorem mem_classNames {name : Text} {chars : Char → Bool} (h : className? name = some chars) :
    name ∈ classNames := by
  have hname : name = (String.ofList name).toList := String.toList_ofList.symm
  rw [hname]
  unfold className? at h
  split at h
  all_goals first | (rename_i he; rw [he]; decide) | cases h

theorem extendedElement?_name {n : Text} {chars : Char → Bool}
    (h : className? n = some chars) (s : Text) :
    extendedElement? ("[:".toList ++ n ++ ":]".toList ++ s) = some (.among chars, s) := by
  have hnames : ∀ name ∈ classNames, ']' ∉ name ++ [':'] := by decide
  have hname := hnames n (mem_classNames h)
  have htext : "[:".toList ++ n ++ ":]".toList ++ s =
      '[' :: ':' :: ((n ++ [':']) ++ ']' :: s) := by simp
  have hclosed : (n ++ [':']) ++ [']'] = n ++ ":]".toList := by simp
  rw [htext, extendedElement?, splitBracket_append hname, hclosed, closedName?_append,
    Option.bind_some, h]
  rfl

/-! #### Members -/

theorem BracketDialect.member?_single {d : BracketDialect}
    (h : d.element? s = some (.single c, rest)) (hrest : hasHyphenInside rest = false) :
    d.member? s = some (.char c, rest) := by
  rw [member?, h]
  exact if_neg (by simp [hrest])

theorem BracketDialect.member?_range {d : BracketDialect} {rest' : Text}
    (h : d.element? s = some (.single c, rest)) (hrest : hasHyphenInside rest = true)
    (h' : d.element? rest.tail = some (.single e, rest')) (hle : ¬e < c) :
    d.member? s = some (.range c e, rest') := by
  rw [member?, h]
  simp only [hrest, if_true, h', if_neg hle]

theorem BracketDialect.member?_among {d : BracketDialect} {chars : Char → Bool}
    (h : d.element? s = some (.among chars, rest)) : d.member? s = some (.among chars, rest) := by
  rw [member?, h]

/-- An extended pattern reads some members in a text and in nothing after it. -/
def IsReadAs (isFirst : Bool) (text : Text) (ms : List Member) : Prop :=
  ∀ n after, text.length ≤ n →
    BracketDialect.extended.members? n isFirst (text ++ after) = some (ms, after)

/-- **A member and those after it**, unless it is taken for something else where it stands. -/
theorem IsReadAs.cons {isFirst : Bool} (h : IsReadAs false text ms) (hne : p ≠ [])
    (hclose : p.head? = some ']' → isFirst = true)
    (hhyphen : ∀ after, hasHyphenInside (p ++ text ++ after) = true → isFirst = true)
    (hm : ∀ after, BracketDialect.extended.member? (p ++ (text ++ after)) =
      some (m, text ++ after)) :
    IsReadAs isFirst (p ++ text) (m :: ms) := by
  intro n after hn
  have hpos : 0 < p.length := List.length_pos_of_ne_nil hne
  rw [List.length_append] at hn
  obtain ⟨k, rfl⟩ : ∃ k, n = k + 1 := ⟨n - 1, by omega⟩
  have hmore := h k after (by omega)
  have hclose' : ¬((p ++ text ++ after).head? = some ']' ∧ isFirst = false) := by
    rintro ⟨hhead, rfl⟩
    obtain ⟨c, t, rfl⟩ := List.exists_cons_of_ne_nil hne
    cases hclose hhead
  have hhyphen' : ¬(BracketDialect.extended.isStrict = true ∧
      hasHyphenInside (p ++ text ++ after) = true ∧ isFirst = false) := by
    rintro ⟨-, hinside, rfl⟩
    cases hhyphen after hinside
  rw [BracketDialect.members?, if_neg hclose', if_neg hhyphen', List.append_assoc, hm,
    Option.bind_some, hmore]
  rfl

/-- Two lists of members stand for the same characters if they begin with members that do,
and go on with members that do. -/
theorem any_holds_cons {ms ms' : List Member} (m : Member)
    (h : ∀ x, ms'.any (·.holds x) = ms.any (·.holds x)) (x : Char) :
    (m :: ms').any (·.holds x) = (m :: ms).any (·.holds x) := by
  rw [List.any_cons, List.any_cons, h]

/-- After a member that ends with an opening bracket, nothing makes it begin a class. -/
theorem AreApart.head? {isFirst : Bool} (h : AreApart isFirst (m :: ms)) (hm : m.last? = some c)
    (hmore : Spells false text ms) (after : Text) (hc : c = '[') :
    (text ++ after).head?.any opensClass = false := by
  rw [Option.any_eq_false]
  intro e he
  obtain rfl | rfl | rfl | ⟨m', hm', he'⟩ := head?_of_spells hmore he
  · decide
  · decide
  · decide
  · have hnext := (List.isChain_cons.mp h.joins).1 m' hm' (hc ▸ hm)
    simpa [he'] using hnext

/-- **An extended pattern reads a spelling as what it spells**, if the members are kept
apart. -/
theorem isReadAs_of_spells {isFirst : Bool} (h : Spells isFirst text ms)
    (hapart : AreApart isFirst ms) :
    ∃ ms', IsReadAs isFirst text ms' ∧ ∀ x, ms'.any (·.holds x) = ms.any (·.holds x) := by
  induction h with
  | close =>
    refine ⟨[], fun n after hn => ?_, fun x => rfl⟩
    cases n with
    | zero => cases hn
    | succ n => rfl
  | @char isFirst c text ms hc hmore ih =>
    obtain ⟨ms', hread, hsame⟩ := ih hapart.more
    refine ⟨.char c :: ms', hread.cons (p := [c]) (by simp) (fun h => hc (Option.some.inj h))
      (hapart.isFirst_of_spells (.char hc hmore)) fun after => ?_, any_holds_cons _ hsame⟩
    refine BracketDialect.member?_single ?_ (hasHyphenInside_of_spells hmore hapart.more.hyphens)
    exact extendedElement?_cons (hapart.head? rfl hmore after)
  | @range isFirst c e text ms hc he hle hmore ih =>
    obtain ⟨ms', hread, hsame⟩ := ih hapart.more
    refine ⟨.range c e :: ms', hread.cons (p := [c, '-', e]) (by simp)
      (fun h => hc (Option.some.inj h)) (hapart.isFirst_of_spells (.range hc he hle hmore))
      fun after => ?_, any_holds_cons _ hsame⟩
    refine BracketDialect.member?_range (extendedElement?_cons fun _ => rfl) ?_ ?_ hle
    · simpa [hasHyphenInside] using he
    · exact extendedElement?_cons (hapart.head? rfl hmore after)
  | @digits isFirst text ms hmore ih =>
    obtain ⟨ms', hread, hsame⟩ := ih hapart.more
    exact ⟨.range '0' '9' :: ms', hread.cons (by simp) (by simp)
      (hapart.isFirst_of_spells (.digits hmore)) fun after => rfl, any_holds_cons _ hsame⟩
  | @word isFirst text ms hmore ih =>
    obtain ⟨ms', hread, hsame⟩ := ih hapart.more
    have hunderscore : IsReadAs false ('_' :: text) (.char '_' :: ms') :=
      hread.cons (p := ['_']) (by simp) (by simp) (fun after h => by cases h) fun after =>
        BracketDialect.member?_single (extendedElement?_cons (c := '_') (by simp))
          (hasHyphenInside_of_spells hmore hapart.more.hyphens)
    refine ⟨.among Char.isAlphanum :: .char '_' :: ms',
      hunderscore.cons (p := "[:alnum:]".toList) (by simp) (by simp)
        (hapart.isFirst_of_spells (.word hmore)) fun after => ?_, fun x => ?_⟩
    · exact BracketDialect.member?_among (extendedElement?_name (n := "alnum".toList) rfl _)
    · rw [List.any_cons, List.any_cons, List.any_cons, hsame, ← Bool.or_assoc]
      rfl
  | @name isFirst name chars text ms hname hmore ih =>
    obtain ⟨ms', hread, hsame⟩ := ih hapart.more
    exact ⟨.among chars :: ms', hread.cons (by simp) (by simp)
      (hapart.isFirst_of_spells (.name hname hmore)) fun after =>
        BracketDialect.member?_among (extendedElement?_name hname _), any_holds_cons _ hsame⟩

/-! ### What the translation makes of the members -/

/-- **The text that an item is read from**, and what follows it. -/
inductive BracketItem.IsAt : BracketItem → Text → Text → Prop
  /-- A backslash and a character. -/
  | escape (c : Char) (rest : Text) : (escape c).IsAt ('\\' :: c :: rest) rest
  /-- A bracket and a colon. -/
  | className {s text rest : Text} : splitBracket (':' :: s) = (text, rest) →
    (className text).IsAt ('[' :: ':' :: s) rest
  /-- Any other character. -/
  | char {c : Char} {rest : Text} : c ≠ '\\' → (c = '[' → rest.head? ≠ some ':') →
    (char c).IsAt (c :: rest) rest

/-- Whether an item is no class by name, or one with a name that extended patterns know. -/
def BracketItem.isKnown : BracketItem → Bool
  | className text => ((closedName? text.tail).bind className?).isSome
  | _ => true

/-- **The items of a closed bracket expression**, the first one and those after it. -/
theorem bracketItems_closed {n : Nat} {isFirst : Bool} {items : List BracketItem}
    (h : bracketItems n isFirst s = (items, .closed, rest)) :
    (s = ']' :: rest ∧ isFirst = false ∧ items = []) ∨
      ∃ n' item items' s', items = item :: items' ∧ item.IsAt s s' ∧
        (s.head? = some ']' → isFirst = true) ∧
        bracketItems n' false s' = (items', .closed, rest) := by
  cases n with
  | zero => cases h
  | succ n =>
    cases s with
    | nil => cases h
    | cons c s =>
      simp only [bracketItems] at h
      split at h
      · rename_i hclose
        obtain ⟨rfl, -, rfl⟩ := by simpa using h
        exact .inl ⟨by rw [hclose.1], by simpa using hclose.2, rfl⟩
      rename_i hclose
      have hfirst : (c :: s).head? = some ']' → isFirst = true := by
        intro hc
        simpa using fun hf => hclose ⟨Option.some.inj hc, hf⟩
      have hmore {item : BracketItem} {t : List BracketItem × BracketEnd × Text}
          (h : (item :: t.1, t.2.1, t.2.2) = (items, .closed, rest)) :
          items = item :: t.1 ∧ t = (t.1, .closed, rest) := by
        obtain ⟨rfl, hend⟩ := Prod.mk.inj h
        exact ⟨rfl, Prod.ext rfl hend⟩
      refine .inr ?_
      split at h
      · rename_i hc
        subst hc
        split at h
        · cases h
        · obtain ⟨rfl, hrest⟩ := hmore h
          exact ⟨n, _, _, _, rfl, .escape _ _, hfirst, hrest⟩
      · rename_i hescape
        split at h
        · rename_i hc
          obtain ⟨rfl, hs⟩ := hc
          obtain ⟨s, rfl⟩ := List.head?_eq_some_iff.mp hs
          obtain ⟨rfl, hrest⟩ := hmore h
          exact ⟨n, _, _, _, rfl, .className rfl, hfirst, hrest⟩
        · rename_i hname
          obtain ⟨rfl, hrest⟩ := hmore h
          exact ⟨n, _, _, _, rfl, .char hescape fun hc hs => hname ⟨hc, hs⟩, hfirst, hrest⟩

theorem eq_append_of_closedName? {name : Text} (h : closedName? text = some name) :
    text = name ++ ":]".toList := by
  unfold closedName? at h
  split at h
  · rename_i u hu
    obtain rfl := Option.some.inj h
    rw [List.reverse_eq_iff] at hu
    simpa using hu
  · cases h

/-- A class that extended patterns know by name is the same class in a Perl pattern. -/
theorem perlClassName?_of_className? {name : Text} {chars : Char → Bool}
    (h : className? name = some chars) : perlClassName? name = some chars := by
  have hnames : ∀ name ∈ classNames,
      name.head? ≠ some '^' ∧ name ≠ "word".toList ∧ name ≠ "ascii".toList := by decide
  obtain ⟨hhead, hword, hascii⟩ := hnames name (mem_classNames h)
  unfold perlClassName?
  split
  · exact absurd rfl hhead
  · rw [perlClassName?.plainName?, if_neg hword, if_neg hascii, h]

theorem perlBracketEscape?_of_not_alphanum (h : c.isAlphanum = false) :
    perlBracketEscape? c = some (.single c) := by
  unfold perlBracketEscape?
  split <;> simp_all [Char.isAlphanum]

/-- **An item is copied or spells a class.** -/
theorem perlElement?_of_isAt {item : BracketItem} (h : item.IsAt s rest)
    (hknown : item.isKnown = true) (hp : item.toExtended = .ok p) :
    (∃ c, perlElement? s = some (.single c, rest) ∧ p = [c] ∧ (c = ']' → s.head? = some ']')) ∨
      ∃ chars, perlElement? s = some (.among chars, rest) ∧
        ∀ isFirst text ms, Spells false text ms →
          Spells isFirst (p ++ text) (.among chars :: ms) := by
  cases h with
  | escape c =>
    simp only [BracketItem.toExtended, bracketEscape] at hp
    split at hp
    · obtain rfl := Except.ok.inj hp
      exact .inr ⟨_, rfl, fun isFirst text ms h => .digits h⟩
    · obtain rfl := Except.ok.inj hp
      exact .inr ⟨_, rfl, fun isFirst text ms h => .word h⟩
    · obtain rfl := Except.ok.inj hp
      exact .inr ⟨_, rfl, fun isFirst text ms h => .name (n := "space".toList) rfl h⟩
    · cases hp
    · cases hp
    · cases hp
    · cases hp
    · rename_i hbracket _ _ _
      split at hp
      · cases hp
      · rename_i hplain
        obtain rfl := Except.ok.inj hp
        rw [Bool.not_eq_true] at hplain
        refine .inl ⟨c, ?_, rfl, fun h => absurd h hbracket⟩
        rw [perlElement?, perlBracketEscape?_of_not_alphanum hplain]
        rfl
  | @className s text _ hsplit =>
    obtain rfl := Except.ok.inj hp
    obtain ⟨rfl, rfl⟩ := Prod.mk.inj hsplit
    obtain ⟨chars, hchars⟩ := Option.isSome_iff_exists.mp hknown
    obtain ⟨name, hclosed, hname⟩ := Option.bind_eq_some_iff.mp hchars
    have htext := eq_append_of_closedName? hclosed
    refine .inr ⟨chars, ?_, fun isFirst text ms h => ?_⟩
    · have hperl := perlClassName?_of_className? hname
      simp only [perlElement?, show closedName? (splitBracket s).1 = some name from hclosed, hperl]
      rfl
    · have hp : '[' :: ':' :: (splitBracket s).1 = "[:".toList ++ name ++ ":]".toList :=
        congrArg ('[' :: ':' :: ·) htext
      rw [hp]
      exact .name hname h
  | @char c _ hc hname =>
    obtain rfl := Except.ok.inj hp
    refine .inl ⟨c, ?_, rfl, fun h => by rw [h]; rfl⟩
    unfold perlElement?
    split <;> simp_all

theorem hasHyphenInside_eq_true_iff :
    hasHyphenInside s = true ↔ ∃ t, s = '-' :: t ∧ t.head? ≠ some ']' := by
  unfold hasHyphenInside
  split <;> simp_all

theorem BracketDialect.member?_cases {d : BracketDialect} (h : d.member? s = some (m, rest)) :
    (∃ chars, d.element? s = some (.among chars, rest) ∧ m = .among chars) ∨
      (∃ c, d.element? s = some (.single c, rest) ∧ m = .char c) ∨
      ∃ c e t, d.element? s = some (.single c, '-' :: t) ∧ t.head? ≠ some ']' ∧
        d.element? t = some (.single e, rest) ∧ ¬e < c ∧ m = .range c e := by
  unfold member? at h
  split at h
  · cases h
  · obtain ⟨rfl, rfl⟩ := Prod.mk.inj (Option.some.inj h)
    exact .inl ⟨_, ‹_›, rfl⟩
  · rename_i c u hc
    split at h
    · rename_i hinside
      obtain ⟨t, rfl, ht⟩ := hasHyphenInside_eq_true_iff.mp hinside
      split at h
      · cases h
      · rename_i e _ he
        split at h
        · cases h
        · rename_i hle
          obtain ⟨rfl, rfl⟩ := Prod.mk.inj (Option.some.inj h)
          exact .inr (.inr ⟨c, e, t, hc, ht, he, hle, rfl⟩)
      · split at h
        · cases h
        · obtain ⟨rfl, rfl⟩ := Prod.mk.inj (Option.some.inj h)
          exact .inr (.inl ⟨c, hc, rfl⟩)
    · obtain ⟨rfl, rfl⟩ := Prod.mk.inj (Option.some.inj h)
      exact .inr (.inl ⟨c, hc, rfl⟩)

theorem BracketDialect.members?_cases {d : BracketDialect} {k : Nat} {isFirst : Bool}
    (h : d.members? (k + 1) isFirst s = some (ms, rest)) :
    (s.head? = some ']' ∧ isFirst = false ∧ ms = [] ∧ rest = s.tail) ∨
      ∃ m t ms', (s.head? = some ']' → isFirst = true) ∧ d.member? s = some (m, t) ∧
        d.members? k false t = some (ms', rest) ∧ ms = m :: ms' := by
  rw [members?] at h
  split at h
  · rename_i hclose
    obtain ⟨rfl, rfl⟩ := Prod.mk.inj (Option.some.inj h)
    exact .inl ⟨hclose.1, hclose.2, rfl, rfl⟩
  · rename_i hclose
    split at h
    · cases h
    · obtain ⟨⟨m, t⟩, hm, hmore⟩ := Option.bind_eq_some_iff.mp h
      obtain ⟨⟨ms', _⟩, hms', hms⟩ := Option.map_eq_some_iff.mp hmore
      obtain ⟨rfl, rfl⟩ := Prod.mk.inj hms
      exact .inr ⟨m, t, ms', fun hs => by simpa using fun hf => hclose ⟨hs, hf⟩, hm, hms', rfl⟩

/-- **A bracket expression is translated**: it is closed, the classes in it have names that
extended patterns know, and its items have a counterpart. -/
def IsTranslated (isFirst : Bool) (s text rest : Text) : Prop :=
  ∃ n items, bracketItems n isFirst s = (items, .closed, rest) ∧
    (∀ item ∈ items, BracketItem.isKnown item = true) ∧ bracketToExtended .closed items = .ok text

theorem IsTranslated.closed (h : IsTranslated false s text rest) (hs : s.head? = some ']') :
    s = ']' :: rest ∧ text = [']'] := by
  obtain ⟨n, items, hitems, -, htext⟩ := h
  obtain ⟨rfl, -, rfl⟩ | ⟨-, -, -, -, -, -, hfirst, -⟩ := bracketItems_closed hitems
  · exact ⟨rfl, (Except.ok.inj htext).symm⟩
  · cases hfirst hs

theorem IsTranslated.item {isFirst : Bool} (h : IsTranslated isFirst s text rest)
    (hs : s.head? = some ']' → isFirst = true) :
    ∃ (item : BracketItem) (s' p text' : Text), item.IsAt s s' ∧ item.isKnown = true ∧
      item.toExtended = .ok p ∧ text = p ++ text' ∧ IsTranslated false s' text' rest := by
  obtain ⟨n, items, hitems, hknown, htext⟩ := h
  obtain ⟨rfl, rfl, rfl⟩ | ⟨n', item, items', s', rfl, hat, -, hmore⟩ := bracketItems_closed hitems
  · cases hs rfl
  obtain ⟨p, text', hp, hmore', rfl⟩ := bracketToExtended_cons_iff.mp htext
  obtain ⟨hitem, hknown'⟩ := List.forall_mem_cons.mp hknown
  exact ⟨item, s', p, text', hat, hitem, hp, rfl, n', items', hmore, hknown', hmore'⟩

/-- **The translation spells the members** of a bracket expression of a Perl pattern, and
ends where the expression ends. -/
theorem spells_of_members? {k : Nat} {isFirst : Bool} {rest' : Text}
    (h : IsTranslated isFirst s text rest)
    (hms : BracketDialect.perl.members? k isFirst s = some (ms, rest')) :
    rest' = rest ∧ Spells isFirst text ms := by
  induction k generalizing isFirst s ms text with
  | zero => cases hms
  | succ k ih =>
    obtain ⟨hs, rfl, rfl, rfl⟩ | ⟨m, t, ms', hs, hm, hms', rfl⟩ := BracketDialect.members?_cases hms
    · obtain ⟨rfl, rfl⟩ := h.closed hs
      exact ⟨rfl, .close⟩
    obtain ⟨item, s', p, text', hat, hknown, hp, rfl, hmore⟩ := h.item hs
    obtain ⟨c, helement, rfl, hc⟩ | ⟨chars, helement, hspell⟩ := perlElement?_of_isAt hat hknown hp
    · obtain ⟨chars, hchars, -⟩ | ⟨c', hc', rfl⟩ | ⟨c', e, u, hc', hu, he, hle, rfl⟩ :=
        BracketDialect.member?_cases hm
      · cases helement.symm.trans hchars
      · cases helement.symm.trans hc'
        obtain ⟨hend, hspells⟩ := ih hmore hms'
        exact ⟨hend, .char (fun h => hs (hc h)) hspells⟩
      · cases helement.symm.trans hc'
        -- a range is three items, the second of which is the hyphen
        obtain ⟨hyphen, s₁, p₁, text₁, hat₁, -, hp₁, rfl, hmore₁⟩ := hmore.item (by simp)
        obtain ⟨⟩ | ⟨⟩ | ⟨-, -⟩ := hat₁
        obtain rfl := Except.ok.inj hp₁
        obtain ⟨last, s₂, p₂, text₂, hat₂, hknown₂, hp₂, rfl, hmore₂⟩ :=
          hmore₁.item fun h => absurd h hu
        obtain ⟨e', he', rfl, hclose⟩ | ⟨chars, hchars, -⟩ := perlElement?_of_isAt hat₂ hknown₂ hp₂
        · cases he'.symm.trans he
          obtain ⟨hend, hspells⟩ := ih hmore₂ hms'
          exact ⟨hend, .range (fun h => hs (hc h)) (fun h => hu (hclose h)) hle hspells⟩
        · cases hchars.symm.trans he
    · obtain ⟨chars', hchars, rfl⟩ | ⟨c', hc', -⟩ | ⟨c', e, u, hc', -⟩ :=
        BracketDialect.member?_cases hm
      · cases helement.symm.trans hchars
        obtain ⟨hend, hspells⟩ := ih hmore hms'
        exact ⟨hend, hspell _ _ _ hspells⟩
      · cases helement.symm.trans hc'
      · cases helement.symm.trans hc'

/-! ### Bracket expressions in patterns -/

/-- What is left of a bracket expression when it may be negated. -/
def bracketBody (s : Text) : Text := if s.head? == some '^' then s.tail else s

theorem bracketBody_suffix (s : Text) : bracketBody s <:+ s := by
  unfold bracketBody
  split
  · exact List.tail_suffix s
  · exact List.suffix_refl s

theorem bracket_eq (s : Text) :
    bracket s =
      let found := bracketItems ((bracketBody s).length + 1) true (bracketBody s)
      (.bracket (s.head? == some '^') found.1 found.2.1, found.2.2) := by
  cases s with
  | nil => rfl
  | cons c s =>
    by_cases hc : c = '^'
    · subst hc
      rfl
    · simp [bracket, bracketBody, hc]

theorem closed_of_bracketToExtended {stop : BracketEnd} {items : List BracketItem}
    (h : bracketToExtended stop items = .ok text) : stop = .closed := by
  induction items generalizing text with
  | nil => cases stop <;> first | rfl | cases h
  | cons item items ih =>
    obtain ⟨_, _, -, hitems, -⟩ := bracketToExtended_cons_iff.mp h
    exact ih hitems

/-! #### What follows a token -/

theorem append_splitBracket (s : Text) : (splitBracket s).1 ++ (splitBracket s).2 = s := by
  fun_induction splitBracket s with
  | case1 => rfl
  | case2 s => rfl
  | case3 c s _ name rest hs ih =>
    rw [hs] at ih
    exact congrArg (c :: ·) ih

theorem bracketItems_suffix (n : Nat) (isFirst : Bool) (s : Text) :
    (bracketItems n isFirst s).2.2 <:+ s := by
  fun_induction bracketItems n isFirst s with
  | case1 => exact List.suffix_refl _
  | case2 => exact List.suffix_refl _
  | case3 => exact List.suffix_cons _ _
  | case4 => exact List.suffix_cons _ _
  | case5 n isFirst e s items stop rest hmore _ ih =>
    rw [hmore] at ih
    exact (ih.trans (List.suffix_cons _ _)).trans (List.suffix_cons _ _)
  | case6 n isFirst c s _ _ _ name s' hname items stop rest hmore ih =>
    rw [hmore] at ih
    have hs' : s' <:+ s := ⟨name, by simpa [hname] using append_splitBracket s⟩
    exact (ih.trans hs').trans (List.suffix_cons _ _)
  | case7 n isFirst c s _ _ _ items stop rest hmore ih =>
    rw [hmore] at ih
    exact ih.trans (List.suffix_cons _ _)

theorem token_suffix (c : Char) (s : Text) : (token c s).2 <:+ s := by
  unfold token
  split
  · split
    · exact List.suffix_refl _
    · exact List.suffix_cons _ _
  · split
    · exact List.drop_suffix _ _
    · exact List.suffix_refl _
  · rw [bracket_eq]
    exact (bracketItems_suffix _ _ _).trans (bracketBody_suffix s)
  · split
    · rename_i hinterval
      obtain ⟨_, hbounds, -⟩ := bounds?_of_interval? hinterval
      exact suffix_of_bounds? hbounds
    · exact List.suffix_refl _
  · exact List.suffix_refl _

/-! #### What is left of a pattern -/

/-- **A text that is left** of a pattern when some of its tokens have been read. -/
inductive IsLeft (p : Text) : Text → Prop
  /-- Nothing has been read. -/
  | all : IsLeft p p
  /-- One more token has been read. -/
  | next {c : Char} {s : Text} : IsLeft p (c :: s) → IsLeft p (token c s).2

/-- All bounds that a text does not exceed are as good as each other. -/
theorem tokensWithin_congr {n m : Nat} (hn : s.length ≤ n) (hm : s.length ≤ m) :
    tokensWithin n s = tokensWithin m s := by
  induction n generalizing m s with
  | zero =>
    obtain rfl : s = [] := List.length_eq_zero_iff.mp (Nat.le_zero.mp hn)
    cases m <;> rfl
  | succ n ih =>
    cases s with
    | nil => cases m <;> rfl
    | cons c s =>
      cases m with
      | zero => cases hm
      | succ m =>
        have hrest := (token_suffix c s).length_le
        rw [List.length_cons] at hn hm
        have hmore : tokensWithin n (token c s).2 = tokensWithin m (token c s).2 :=
          ih (by omega) (by omega)
        exact congrArg ((token c s).1 :: ·) hmore

theorem tokens_cons (c : Char) (s : Text) :
    tokens (c :: s) = (token c s).1 :: tokens (token c s).2 :=
  congrArg ((token c s).1 :: ·)
    (tokensWithin_congr (token_suffix c s).length_le (Nat.le_refl _))

/-- **Induction along the reading of a pattern**, token after token. -/
@[elab_as_elim]
theorem tokens_induction {motive : Text → Prop} (nil : motive [])
    (cons : ∀ c s, motive (token c s).2 → motive (c :: s)) (p : Text) : motive p := by
  induction hn : p.length using Nat.strongRecOn generalizing p with
  | _ n ih =>
    cases p with
    | nil => exact nil
    | cons c s =>
      have hrest := (token_suffix c s).length_le
      rw [List.length_cons] at hn
      exact cons c s (ih _ (by omega) _ rfl)

theorem tokensToExtended_cons (afterQuantifier : Bool) (c : Char) (s : Text) :
    tokensToExtended afterQuantifier (tokens (c :: s)) = (do
      let first ← (token c s).1.toExtended afterQuantifier
      let rest ← tokensToExtended (token c s).1.isQuantifier (tokens (token c s).2)
      return first ++ rest) := by
  rw [tokens_cons]
  rfl

/-- **The translation of a pattern** is that of its first token and that of what follows. -/
theorem tokensToExtended_cons_eq_ok_iff {afterQuantifier : Bool} {q : Text} :
    tokensToExtended afterQuantifier (tokens (c :: s)) = .ok q ↔
      ∃ first more, (token c s).1.toExtended afterQuantifier = .ok first ∧
        tokensToExtended (token c s).1.isQuantifier (tokens (token c s).2) = .ok more ∧
        q = first ++ more := by
  rw [tokens_cons]
  exact tokensToExtended_cons_iff

/-- The counterpart of what is left ends the counterpart of the pattern. -/
theorem toExtended_of_isLeft {q : Text} (h : toExtended p = .ok q) (hs : IsLeft p s) :
    ∃ before afterQuantifier post, q = before ++ post ∧
      tokensToExtended afterQuantifier (tokens s) = .ok post := by
  induction hs with
  | all => exact ⟨[], false, q, rfl, h⟩
  | @next c s hleft ih =>
    obtain ⟨before, afterQuantifier, post, rfl, hpost⟩ := ih
    obtain ⟨first, post', -, hpost', rfl⟩ := tokensToExtended_cons_eq_ok_iff.mp hpost
    exact ⟨before ++ first, _, post', (List.append_assoc _ _ _).symm, hpost'⟩

/-! ### The translation of a bracket expression -/

/-- The items of a token. -/
def Token.items : Token → List BracketItem
  | bracket _ items _ => items
  | _ => []

/-- **A bracket expression is portable**, by the items it is read as for the translation and
by its members. -/
structure IsPortable (t : Token) (b : Bracket) : Prop where
  /-- The classes have names that extended patterns know. -/
  known : ∀ item ∈ t.items, BracketItem.isKnown item = true
  /-- The members are kept apart. -/
  apart : AreApart true b.members

theorem head?_of_bracketEscape (h : bracketEscape c = .ok p) :
    ∃ d t, p = d :: t ∧ d ≠ '^' := by
  unfold bracketEscape at h
  split at h
  · exact ⟨_, _, (Except.ok.inj h).symm, by decide⟩
  · exact ⟨_, _, (Except.ok.inj h).symm, by decide⟩
  · exact ⟨_, _, (Except.ok.inj h).symm, by decide⟩
  · cases h
  · cases h
  · cases h
  · cases h
  · split at h
    · cases h
    · exact ⟨_, _, (Except.ok.inj h).symm, ‹_›⟩

/-- The counterpart of an item begins with a caret only if the item does. -/
theorem BracketItem.IsAt.head?_counterpart {item : BracketItem} (h : item.IsAt s rest)
    (hcaret : s.head? ≠ some '^') (hp : item.toExtended = .ok p) :
    ∃ d t, p = d :: t ∧ d ≠ '^' := by
  cases h with
  | escape c => exact head?_of_bracketEscape hp
  | className =>
    obtain rfl := Except.ok.inj hp
    exact ⟨_, _, rfl, by decide⟩
  | char =>
    obtain rfl := Except.ok.inj hp
    exact ⟨_, _, rfl, fun he => hcaret (congrArg some he)⟩

/-- The counterpart of the items begins with a caret only if they do. -/
theorem IsTranslated.head? (h : IsTranslated true s text rest) (hcaret : s.head? ≠ some '^')
    (after : Text) : (text ++ after).head? ≠ some '^' := by
  obtain ⟨item, s', p, text', hat, -, hp, rfl, -⟩ := h.item fun _ => rfl
  obtain ⟨d, t, rfl, hd⟩ := hat.head?_counterpart hcaret hp
  simpa using hd

theorem read?_of_isReadAs {negated : Bool} (h : IsReadAs true text ms)
    (hcaret : negated = false → ∀ after, (text ++ after).head? ≠ some '^') (after : Text) :
    BracketDialect.extended.read? ((if negated then '^' :: text else text) ++ after) =
      some (⟨negated, ms⟩, after) := by
  have hlength : text.length ≤ (text ++ after).length + 1 := by
    rw [List.length_append]
    omega
  have hmembers := h _ after hlength
  cases negated with
  | true =>
    exact congrArg (Option.map fun found => (Bracket.mk true found.1, found.2)) hmembers
  | false =>
    have hhead : ((text ++ after).head? == some '^') = false := by simpa using hcaret rfl after
    show (BracketDialect.extended.read? (text ++ after)) = _
    simp only [BracketDialect.read?, hhead, Bool.false_eq_true, if_false, hmembers, Option.map_some]

/-- **A portable bracket expression keeps its meaning.** Its counterpart in the translation
of a pattern ends where the expression ends, whatever follows it, and stands for the same
characters in an extended pattern as the expression does in a Perl pattern. -/
theorem holds_toExtended {q : Text} {b : Bracket} (h : toExtended p = .ok q)
    (hs : IsLeft p ('[' :: s)) (hb : BracketDialect.perl.read? s = some (b, rest))
    (hportable : IsPortable (bracket s).1 b) :
    IsLeft p rest ∧ ∃ before text post b', q = before ++ '[' :: (text ++ post) ∧
      (bracket s).1.toExtended false = .ok ('[' :: text) ∧ toExtended rest = .ok post ∧
      (∀ after, BracketDialect.extended.read? (text ++ after) = some (b', after)) ∧
      ∀ x, b'.holds x = b.holds x := by
  obtain ⟨before, afterQuantifier, whole, rfl, hwhole⟩ := toExtended_of_isLeft h hs
  rw [tokens_cons] at hwhole
  obtain ⟨p', hp', hmore⟩ := bind_eq_ok_iff.mp hwhole
  obtain ⟨post, hpost, hq⟩ := bind_eq_ok_iff.mp hmore
  obtain rfl := Except.ok.inj hq
  have hleft : IsLeft p (bracket s).2 := hs.next
  obtain ⟨⟨ms, rest'⟩, hms, hb⟩ := Option.map_eq_some_iff.mp hb
  obtain ⟨rfl, rfl⟩ := Prod.mk.inj hb
  have hbracket := bracket_eq s
  rcases hitems : bracketItems ((bracketBody s).length + 1) true (bracketBody s) with
    ⟨items, stop, rest⟩
  rw [hitems] at hbracket
  have htoken : token '[' s = (.bracket (s.head? == some '^') items stop, rest) := hbracket
  rw [htoken] at hp' hpost
  rw [hbracket] at hleft hportable
  obtain ⟨text, htext, hp'⟩ := bind_eq_ok_iff.mp hp'
  obtain rfl := Except.ok.inj hp'
  obtain rfl := closed_of_bracketToExtended htext
  have htranslated : IsTranslated true (bracketBody s) text rest :=
    ⟨_, items, hitems, hportable.known, htext⟩
  obtain ⟨rfl, hspells⟩ := spells_of_members? htranslated hms
  obtain ⟨ms', hread, hsame⟩ := isReadAs_of_spells hspells hportable.apart
  have hcaret : (s.head? == some '^') = false → ∀ after, (text ++ after).head? ≠ some '^' := by
    intro hnegated
    have hbody : bracketBody s = s := by rw [bracketBody, hnegated]; rfl
    rw [hbody] at htranslated
    exact htranslated.head? (by simpa using hnegated)
  have hcounterpart : (bracket s).1.toExtended false =
      .ok ('[' :: if (s.head? == some '^') = true then '^' :: text else text) := by
    rw [hbracket]
    exact bind_eq_ok_iff.mpr ⟨text, htext, rfl⟩
  refine ⟨hleft, before, _, post, ⟨s.head? == some '^', ms'⟩, rfl, hcounterpart, hpost,
    read?_of_isReadAs hread hcaret, fun x => ?_⟩
  rw [Bracket.holds, Bracket.holds, hsame]

/-- A negated expression with an escape, a range, a class by name and a hyphen. -/
theorem holds_toExtended_negated :
    toExtended "x[^\\d_a-f[:blank:]-]+".toList = .ok "x[^0-9_a-f[:blank:]-]+".toList ∧
      ∃ b b', BracketDialect.perl.read? "^\\d_a-f[:blank:]-]+".toList = some (b, "+".toList) ∧
        IsPortable (bracket "^\\d_a-f[:blank:]-]+".toList).1 b ∧
        BracketDialect.extended.read? "^0-9_a-f[:blank:]-]+".toList = some (b', "+".toList) ∧
        ∀ x, b'.holds x = b.holds x := by
  have h : toExtended "x[^\\d_a-f[:blank:]-]+".toList = .ok "x[^0-9_a-f[:blank:]-]+".toList := by
    decide +kernel
  have hs : IsLeft "x[^\\d_a-f[:blank:]-]+".toList ('[' :: "^\\d_a-f[:blank:]-]+".toList) :=
    IsLeft.all.next (c := 'x')
  have hportable : IsPortable (bracket "^\\d_a-f[:blank:]-]+".toList).1
      ⟨true, [.among Char.isDigit, .char '_', .range 'a' 'f',
        .among fun c => c == ' ' || c == '\t', .char '-']⟩ :=
    ⟨by decide +kernel, by decide +kernel⟩
  have hb : BracketDialect.perl.read? "^\\d_a-f[:blank:]-]+".toList = some (_, "+".toList) := rfl
  obtain ⟨-, before, text, post, b', -, htext, -, hread, hsame⟩ :=
    holds_toExtended h hs hb hportable
  have hcounterpart : (bracket "^\\d_a-f[:blank:]-]+".toList).1.toExtended false =
      .ok "[^0-9_a-f[:blank:]-]".toList := by decide +kernel
  obtain rfl : text = "^0-9_a-f[:blank:]-]".toList :=
    (List.cons.inj (Except.ok.inj (htext.symm.trans hcounterpart))).2
  exact ⟨h, _, b', hb, hportable, hread "+".toList, hsame⟩

/-- **A hyphen after a class**: the Perl expression holds a hyphen and no backquote, and its
counterpart, which makes a range of the hyphen, holds a backquote and no hyphen. -/
theorem holds_toExtended_hyphen :
    toExtended "[\\w-z]".toList = .ok "[[:alnum:]_-z]".toList ∧
      ∃ b b', BracketDialect.perl.read? "\\w-z]".toList = some (b, []) ∧
        BracketDialect.extended.read? "[:alnum:]_-z]".toList = some (b', []) ∧
        (b.holds '-', b.holds '`') = (true, false) ∧
        (b'.holds '-', b'.holds '`') = (false, true) := by
  refine ⟨by decide +kernel, _, _, rfl, rfl, ?_, ?_⟩ <;> decide +kernel

end GnuLint.Grep
