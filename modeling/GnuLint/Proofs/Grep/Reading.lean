import GnuLint.Proofs.Grep.BracketTranslation

/-!
# Reading a pattern from left to right

The tokens of a pattern are found by a function that is bounded by the length of what is left, and
that takes the beginning of an extended group for one token. This file says what they are without
it: which items a bracket expression has (`GnuLint.Grep.ItemsAt`), what the bounds of an interval
look like (`GnuLint.Grep.IsBounds`), and which token a text begins with
(`GnuLint.Grep.Token.IsAt`). Each of these is determined by the text, and is what the function finds
(`GnuLint.Grep.itemsAt_bracketItems`, `GnuLint.Grep.interval?_eq_some_iff`,
`GnuLint.Grep.isAt_iff`).

Two things about the reading are worth saying.

* A parenthesis is a character of its own, whatever comes after it. The function differs there, but
  then the translation goes no further (`GnuLint.Grep.Token.isAt_of_toExtended`).
* A class by name in a bracket expression goes on to the next closing bracket or, if there is none,
  to the end of the pattern. In the latter case the bracket expression is not closed, and a
  backslash at the end of the pattern is a part of the name.

A pattern that has a translation is thus read token by token, and the translation is made of the
counterparts of the tokens (`GnuLint.Grep.Translates`). What holds of a pattern and its translation
is proved by induction on that.
-/

namespace GnuLint.Grep

variable {c : Char} {s rest : Text} {t : Token} {afterQuantifier : Bool}

/-! ### Reading a bracket expression -/

/-- **The items of a bracket expression**, how it ends, and what follows it; `isFirst` says whether
nothing comes before them, in which case they may begin with a closing bracket. -/
inductive ItemsAt : (isFirst : Bool) → Text → List BracketItem → BracketEnd → Text → Prop
  /-- The closing bracket. -/
  | closed {rest : Text} : ItemsAt false (']' :: rest) [] .closed rest
  /-- The end of the pattern. -/
  | unclosed {isFirst : Bool} : ItemsAt isFirst [] [] .unclosed []
  /-- A backslash at the end of the pattern. -/
  | backslash {isFirst : Bool} : ItemsAt isFirst ['\\'] [] .backslash []
  /-- An item, and those after it. -/
  | item {isFirst : Bool} {s s' rest : Text} {item : BracketItem} {items : List BracketItem}
      {stop : BracketEnd} :
    (s.head? = some ']' → isFirst = true) → item.IsAt s s' → ItemsAt false s' items stop rest →
      ItemsAt isFirst s (item :: items) stop rest

/-- An item is read from at least one character. -/
theorem BracketItem.IsAt.follows {item : BracketItem} (h : item.IsAt s rest) :
    ∃ c t, s = c :: t ∧ rest <:+ t := by
  cases h with
  | escape c => exact ⟨_, _, rfl, List.suffix_cons c rest⟩
  | @className s text _ hsplit =>
    have happend := append_splitBracket (':' :: s)
    rw [hsplit] at happend
    exact ⟨_, _, rfl, text, happend⟩
  | char => exact ⟨_, _, rfl, List.suffix_refl rest⟩

theorem BracketItem.IsAt.length_lt {item : BracketItem} (h : item.IsAt s rest) :
    rest.length < s.length := by
  obtain ⟨c, t, rfl, hsuffix⟩ := h.follows
  exact Nat.lt_succ_of_le hsuffix.length_le

theorem bracketItems_of_isAt {n : Nat} {isFirst : Bool} {item : BracketItem}
    (hfirst : s.head? = some ']' → isFirst = true) (h : item.IsAt s rest) :
    bracketItems (n + 1) isFirst s =
      (item :: (bracketItems n false rest).1, (bracketItems n false rest).2.1,
        (bracketItems n false rest).2.2) := by
  cases h with
  | escape c => simp [bracketItems]
  | className hsplit => simp [bracketItems, hsplit]
  | @char c rest hc hname =>
    have hclose : ¬(c = ']' ∧ ¬isFirst = true) := fun h => h.2 (hfirst (by rw [h.1]; rfl))
    have hname' : ¬(c = '[' ∧ rest.head? = some ':') := fun h => hname h.1 h.2
    simp only [bracketItems, if_neg hclose, if_neg hc, if_neg hname']

theorem bracketItems_of_itemsAt {n : Nat} {isFirst : Bool} {items : List BracketItem}
    {stop : BracketEnd} (h : ItemsAt isFirst s items stop rest) (hn : s.length < n) :
    bracketItems n isFirst s = (items, stop, rest) := by
  obtain ⟨k, rfl⟩ : ∃ k, n = k + 1 := ⟨n - 1, by omega⟩
  induction h generalizing k with
  | closed => simp [bracketItems]
  | unclosed => rfl
  | backslash => simp [bracketItems]
  | item hfirst hitem _ ih =>
    have hlength := hitem.length_lt
    obtain ⟨k, rfl⟩ : ∃ j, k = j + 1 := ⟨k - 1, by omega⟩
    rw [bracketItems_of_isAt hfirst hitem, ih k (by omega)]

theorem itemsAt_bracketItems {n : Nat} {isFirst : Bool} (hn : s.length < n) :
    ItemsAt isFirst s (bracketItems n isFirst s).1 (bracketItems n isFirst s).2.1
      (bracketItems n isFirst s).2.2 := by
  induction n generalizing isFirst s with
  | zero => cases hn
  | succ n ih =>
    have hmore {item : BracketItem} {s' : Text} (hfirst : s.head? = some ']' → isFirst = true)
        (hitem : item.IsAt s s') :
        ItemsAt isFirst s (bracketItems (n + 1) isFirst s).1 (bracketItems (n + 1) isFirst s).2.1
          (bracketItems (n + 1) isFirst s).2.2 := by
      have hlength := hitem.length_lt
      rw [bracketItems_of_isAt hfirst hitem]
      exact .item hfirst hitem (ih (by omega))
    cases s with
    | nil => exact .unclosed
    | cons c s =>
      by_cases hclose : c = ']' ∧ isFirst = false
      · obtain ⟨rfl, rfl⟩ := hclose
        exact .closed
      have hfirst : (c :: s).head? = some ']' → isFirst = true := fun hc => by
        simpa using fun hf => hclose ⟨Option.some.inj hc, hf⟩
      by_cases hc : c = '\\'
      · subst hc
        cases s with
        | nil => exact .backslash
        | cons e s => exact hmore hfirst (.escape e s)
      · by_cases hname : c = '[' ∧ s.head? = some ':'
        · obtain ⟨rfl, hs⟩ := hname
          obtain ⟨s, rfl⟩ := List.head?_eq_some_iff.mp hs
          exact hmore hfirst (.className rfl)
        · exact hmore hfirst (.char hc fun he hs => hname ⟨he, hs⟩)

/-- **The items that are read** are those that stand there, and no others. -/
theorem splitBracket_cases (s : Text) :
    (splitBracket s).2 = [] ∨ ∃ name, ']' ∉ name ∧ (splitBracket s).1 = name ++ [']'] := by
  fun_induction splitBracket s with
  | case1 => exact .inl rfl
  | case2 s => exact .inr ⟨[], by simp, rfl⟩
  | case3 c s hc name rest hs ih =>
    rw [hs] at ih
    refine ih.imp id ?_
    rintro ⟨name', hname, heq⟩
    have hc' : c ≠ ']' := fun h => hc h
    exact ⟨c :: name', by simp [hname, hc'.symm], congrArg (c :: ·) heq⟩

theorem splitBracket_of_notMem (h : ']' ∉ s) : splitBracket s = (s, []) := by
  have happend := append_splitBracket s
  obtain hnone | ⟨name, -, hname⟩ := splitBracket_cases s
  · rw [hnone, List.append_nil] at happend
    exact Prod.ext happend hnone
  · rw [hname] at happend
    exact absurd (happend ▸ by simp) h

/-- **A class by name is closed** in a bracket expression that is closed: otherwise it would leave
nothing of the pattern. -/
theorem ItemsAt.exists_name {text after : Text} {items : List BracketItem}
    (h : ItemsAt false rest items .closed after) (hsplit : splitBracket s = (text, rest)) :
    ∃ name, ']' ∉ name ∧ text = name ++ [']'] := by
  have hcases := splitBracket_cases s
  rw [hsplit] at hcases
  obtain rfl | hname := hcases
  · cases h with
    | item _ hat _ => cases hat
  · exact hname

/-! ### Reading an interval -/

/-- A number in decimal digits. -/
def IsNumber (n : Text) : Prop := n ≠ [] ∧ ∀ c ∈ n, c.isDigit = true

/-- **The bounds of an interval**, with the closing brace. -/
inductive IsBounds : Text → Prop
  /-- One number. -/
  | exactly {n : Text} : IsNumber n → IsBounds (n ++ ['\x7d'])
  /-- A number and a comma. -/
  | atLeast {n : Text} : IsNumber n → IsBounds (n ++ [',', '\x7d'])
  /-- Two numbers with a comma between them. -/
  | between {n m : Text} : IsNumber n → IsNumber m → IsBounds (n ++ ',' :: m ++ ['\x7d'])

theorem IsBounds.mem {bounds : Text} (h : IsBounds bounds) (hc : c ∈ bounds) :
    c.isDigit = true ∨ c = ',' ∨ c = '\x7d' := by
  cases h with
  | exactly hn =>
    rcases List.mem_append.mp hc with hc | hc
    · exact .inl (hn.2 c hc)
    · exact .inr (.inr (List.mem_singleton.mp hc))
  | atLeast hn =>
    rcases List.mem_append.mp hc with hc | hc
    · exact .inl (hn.2 c hc)
    · exact .inr (by simpa using hc)
  | between hn hm =>
    rcases List.mem_append.mp hc with hc | hc
    · rcases List.mem_append.mp hc with hc | hc
      · exact .inl (hn.2 c hc)
      · rcases List.mem_cons.mp hc with hc | hc
        · exact .inr (.inl hc)
        · exact .inl (hm.2 c hc)
    · exact .inr (.inr (List.mem_singleton.mp hc))

/-- Nothing but digits, a comma and braces is read for an interval. -/
theorem IsBounds.notMem {bounds : Text} (h : IsBounds bounds) (hc : c.isDigit = false)
    (hc' : c ∉ ['\x7b', ',', '\x7d']) : c ∉ '\x7b' :: bounds := by
  intro hmem
  obtain rfl | hmem := List.mem_cons.mp hmem
  · exact hc' List.mem_cons_self
  · obtain hdigit | rfl | rfl := h.mem hmem
    · rw [hc] at hdigit
      cases hdigit
    · exact hc' (by decide)
    · exact hc' (by decide)

theorem isNumber_takeWhile (h : s.takeWhile Char.isDigit ≠ []) :
    IsNumber (s.takeWhile Char.isDigit) :=
  ⟨h, fun _ hc => List.mem_takeWhile_imp hc⟩

theorem isBounds_of_interval? {bounds : Text} (h : interval? s = some (bounds, rest)) :
    IsBounds bounds ∧ s = bounds ++ rest := by
  have hs := List.takeWhile_append_dropWhile (p := Char.isDigit) (l := s)
  simp only [interval?] at h
  split at h
  · cases h
  rename_i hsome
  have hnumber := isNumber_takeWhile (s := s) (by simpa using hsome)
  split at h
  · rename_i t ht
    obtain ⟨rfl, rfl⟩ := Prod.mk.inj (Option.some.inj h)
    refine ⟨.exactly hnumber, ?_⟩
    rw [List.append_assoc, List.singleton_append, ← ht, hs]
  · rename_i t ht
    have hmore := List.takeWhile_append_dropWhile (p := Char.isDigit) (l := t)
    split at h
    · rename_i u hu
      obtain ⟨rfl, rfl⟩ := Prod.mk.inj (Option.some.inj h)
      constructor
      · by_cases hnone : t.takeWhile Char.isDigit = []
        · rw [hnone, List.append_assoc]
          exact .atLeast hnumber
        · exact .between hnumber (isNumber_takeWhile hnone)
      · rw [List.append_assoc, List.append_assoc, List.cons_append, List.singleton_append, ← hu,
          hmore, ← ht, hs]
    · cases h
  · cases h

theorem interval?_of_isBounds {bounds : Text} (h : IsBounds bounds) (rest : Text) :
    interval? (bounds ++ rest) = some (bounds, rest) := by
  cases h with
  | @exactly n hn =>
    have htext : n ++ ['\x7d'] ++ rest = n ++ '\x7d' :: rest := by simp
    rw [htext]
    simp only [interval?, takeWhile_digits hn.2 (c := '\x7d') rfl,
      dropWhile_digits hn.2 (c := '\x7d') rfl, List.isEmpty_iff, if_neg hn.1]
  | @atLeast n hn =>
    have htext : n ++ [',', '\x7d'] ++ rest = n ++ ',' :: '\x7d' :: rest := by simp
    rw [htext]
    simp only [interval?, takeWhile_digits hn.2 (c := ',') rfl,
      dropWhile_digits hn.2 (c := ',') rfl, List.isEmpty_iff, if_neg hn.1]
    simp [List.takeWhile, List.dropWhile, show Char.isDigit '\x7d' = false from rfl]
  | @between n m hn hm =>
    have htext : n ++ ',' :: m ++ ['\x7d'] ++ rest = n ++ ',' :: (m ++ '\x7d' :: rest) := by simp
    rw [htext]
    simp only [interval?, takeWhile_digits hn.2 (c := ',') rfl,
      dropWhile_digits hn.2 (c := ',') rfl, List.isEmpty_iff, if_neg hn.1,
      takeWhile_digits hm.2 (c := '\x7d') rfl, dropWhile_digits hm.2 (c := '\x7d') rfl]

/-- **The bounds that are read** after a brace are those that stand there. -/
theorem interval?_eq_some_iff {bounds : Text} :
    interval? s = some (bounds, rest) ↔ IsBounds bounds ∧ s = bounds ++ rest := by
  refine ⟨isBounds_of_interval?, ?_⟩
  rintro ⟨hbounds, rfl⟩
  exact interval?_of_isBounds hbounds rest

theorem interval?_eq_none_iff :
    interval? s = none ↔ ∀ bounds rest, s = bounds ++ rest → ¬IsBounds bounds := by
  rw [Option.eq_none_iff_forall_ne_some]
  constructor
  · intro h bounds rest hs hbounds
    exact h _ (interval?_eq_some_iff.mpr ⟨hbounds, hs⟩)
  · rintro h ⟨bounds, rest⟩ hinterval
    obtain ⟨hbounds, hs⟩ := interval?_eq_some_iff.mp hinterval
    exact h bounds rest hs hbounds

/-! ### Reading a pattern -/

/-- **The token that a text begins with**, and what follows it. -/
inductive Token.IsAt : Token → Text → Text → Prop
  /-- A backslash and a character. -/
  | escape (c : Char) (rest : Text) : (escape c).IsAt ('\\' :: c :: rest) rest
  /-- A backslash at the end. -/
  | backslash : backslash.IsAt ['\\'] []
  /-- A bracket expression. A caret right after the opening bracket is no item. -/
  | bracket {s rest : Text} {items : List BracketItem} {stop : BracketEnd} :
    ItemsAt true (bracketBody s) items stop rest →
      (bracket (s.head? == some '^') items stop).IsAt ('[' :: s) rest
  /-- A brace that goes on as an interval. -/
  | interval {bounds : Text} (rest : Text) : IsBounds bounds →
    (interval bounds).IsAt ('\x7b' :: (bounds ++ rest)) rest
  /-- Any other character. -/
  | char {c : Char} {rest : Text} : c ≠ '\\' → c ≠ '[' →
    (c = '\x7b' → ∀ bounds more, rest = bounds ++ more → ¬IsBounds bounds) →
      (char c).IsAt (c :: rest) rest

/-- The token at the beginning of a text, with a parenthesis as a token of its own. -/
def piece (c : Char) (s : Text) : Token × Text := if c = '(' then (.char '(', s) else token c s

theorem piece_eq_token (h : ¬(c = '(' ∧ s.head? = some '?')) : piece c s = token c s := by
  unfold piece
  split
  · rename_i hc
    subst hc
    exact (if_neg fun hs => h ⟨rfl, hs⟩).symm
  · rfl

theorem token_char (hescape : c ≠ '\\') (hopening : c ≠ '(') (hbracket : c ≠ '[')
    (hbrace : c ≠ '\x7b') (s : Text) : token c s = (.char c, s) := by
  unfold token
  split <;> simp_all

theorem piece_of_isAt (h : t.IsAt (c :: s) rest) : piece c s = (t, rest) := by
  cases h with
  | escape c => rfl
  | backslash => rfl
  | bracket hitems =>
    have hread := bracketItems_of_itemsAt hitems (Nat.lt_succ_self _)
    show bracket s = _
    rw [bracket_eq, hread]
  | interval rest hbounds =>
    rw [piece, if_neg (by decide)]
    simp only [token, interval?_of_isBounds hbounds]
  | char hc hbracket hbrace =>
    by_cases hopening : c = '('
    · subst hopening
      rfl
    · by_cases hbrace' : c = '\x7b'
      · subst hbrace'
        rw [piece, if_neg hopening]
        simp only [token, interval?_eq_none_iff.mpr (hbrace rfl)]
      · rw [piece, if_neg hopening, token_char hc hopening hbracket hbrace']

theorem isAt_piece (c : Char) (s : Text) : (piece c s).1.IsAt (c :: s) (piece c s).2 := by
  unfold piece token
  split
  · rename_i hc
    subst hc
    exact .char (by decide) (by decide) (by simp)
  · rename_i hopening
    split
    · cases s with
      | nil => exact .backslash
      | cons e s => exact .escape e s
    · exact absurd rfl hopening
    · rw [bracket_eq]
      exact .bracket (itemsAt_bracketItems (Nat.lt_succ_self _))
    · split
      · rename_i bounds rest hinterval
        obtain ⟨hbounds, rfl⟩ := interval?_eq_some_iff.mp hinterval
        exact .interval rest hbounds
      · rename_i hinterval
        exact .char (by decide) (by decide) fun _ => interval?_eq_none_iff.mp hinterval
    · rename_i hc _ hbracket hbrace
      exact .char hc hbracket fun h => absurd h hbrace

/-- **The token that is read** is the one that stands there, and no other. -/
theorem isAt_iff : t.IsAt (c :: s) rest ↔ piece c s = (t, rest) := by
  refine ⟨piece_of_isAt, fun h => ?_⟩
  have hread := isAt_piece c s
  rwa [h] at hread

theorem piece_suffix (c : Char) (s : Text) : (piece c s).2 <:+ s := by
  unfold piece
  split
  · exact List.suffix_refl s
  · exact token_suffix c s

theorem Token.IsAt.suffix (h : t.IsAt s rest) : rest <:+ s := by
  cases s with
  | nil => cases h
  | cons c s =>
    have hsuffix := piece_suffix c s
    rw [isAt_iff.mp h] at hsuffix
    exact hsuffix.trans (List.suffix_cons c s)

/-! ### The counterparts of escapes -/

/-- The bracket expressions for the classes of escapes. -/
def classExpressions : List Text :=
  ["[0-9]", "[^0-9]", "[[:alnum:]_]", "[^[:alnum:]_]", "[[:space:]]", "[^[:space:]]"].map
    String.toList

/-- What stands for the classes of escapes inside a bracket expression. -/
def classMembers : List Text := ["0-9", "[:alnum:]_", "[:space:]"].map String.toList

theorem escapeToExtended_of_class (h : c ∈ "dDwWsS".toList) :
    ∃ q ∈ classExpressions, escapeToExtended c = .ok q := by
  simp only [String.reduceToList, List.mem_cons, List.not_mem_nil, or_false] at h
  rcases h with rfl | rfl | rfl | rfl | rfl | rfl <;> exact ⟨_, by decide, rfl⟩

theorem escapeToExtended_of_not_class (h : c ∉ "dDwWsS".toList) :
    escapeToExtended c =
      if isAssertion c then .error (.assertion c)
      else if '1' ≤ c ∧ c ≤ '9' then .error (.backreference c)
      else if c.isAlphanum then .error (.escape c)
      else .ok ['\\', c] := by
  unfold escapeToExtended
  split <;> first | rfl | exact absurd (by decide) h

/-- **An escape that has a counterpart** is a class or a character that stands for itself. -/
theorem escapeToExtended_cases {first : Text} (h : escapeToExtended c = .ok first) :
    c ∈ "dDwWsS".toList ∧ first ∈ classExpressions ∨
      c.isAlphanum = false ∧ first = ['\\', c] := by
  by_cases hclass : c ∈ "dDwWsS".toList
  · obtain ⟨q, hq, heq⟩ := escapeToExtended_of_class hclass
    obtain rfl := Except.ok.inj (heq.symm.trans h)
    exact .inl ⟨hclass, hq⟩
  rw [escapeToExtended_of_not_class hclass] at h
  split at h
  · cases h
  split at h
  · cases h
  split at h
  · cases h
  rename_i hplain
  exact .inr ⟨by simpa using hplain, (Except.ok.inj h).symm⟩

theorem isAlphanum_of_mem_classes (h : c ∈ "dDwWsS".toList) : c.isAlphanum = true := by
  have hletters : "dDwWsS".toList.all Char.isAlphanum = true := by decide
  exact List.all_eq_true.mp hletters c h

theorem bracketEscape_of_class (h : c ∈ "dws".toList) :
    ∃ q ∈ classMembers, bracketEscape c = .ok q := by
  simp only [String.reduceToList, List.mem_cons, List.not_mem_nil, or_false] at h
  rcases h with rfl | rfl | rfl <;> exact ⟨_, by decide, rfl⟩

theorem bracketEscape_of_literal (h : c ∈ "]\\^-".toList) :
    bracketEscape c = .error (.bracketLiteral c) := by
  simp only [String.reduceToList, List.mem_cons, List.not_mem_nil, or_false] at h
  rcases h with rfl | rfl | rfl | rfl <;> rfl

theorem bracketEscape_of_not_class (h : c ∉ "dws".toList) (h' : c ∉ "]\\^-".toList) :
    bracketEscape c = if c.isAlphanum then .error (.bracketEscape c) else .ok [c] := by
  unfold bracketEscape
  split <;> first | rfl | exact absurd (by decide) h | exact absurd (by decide) h'

/-- **An escape in a bracket expression that has a counterpart** is a class or a character that
means nothing there. -/
theorem bracketEscape_cases {first : Text} (h : bracketEscape c = .ok first) :
    c ∈ "dws".toList ∧ first ∈ classMembers ∨
      c.isAlphanum = false ∧ c ∉ "]\\^-".toList ∧ first = [c] := by
  by_cases hliteral : c ∈ "]\\^-".toList
  · cases (bracketEscape_of_literal hliteral).symm.trans h
  by_cases hclass : c ∈ "dws".toList
  · obtain ⟨q, hq, heq⟩ := bracketEscape_of_class hclass
    obtain rfl := Except.ok.inj (heq.symm.trans h)
    exact .inl ⟨hclass, hq⟩
  rw [bracketEscape_of_not_class hclass hliteral] at h
  split at h
  · cases h
  rename_i hplain
  exact .inr ⟨by simpa using hplain, hliteral, (Except.ok.inj h).symm⟩

/-! ### Translating a pattern -/

/-- A token that has a counterpart stands where it was found. -/
theorem Token.isAt_of_toExtended {first : Text}
    (h : (token c s).1.toExtended afterQuantifier = .ok first) :
    (token c s).1.IsAt (c :: s) (token c s).2 := by
  by_cases hgroup : c = '(' ∧ s.head? = some '?'
  · obtain ⟨rfl, hs⟩ := hgroup
    have htoken : token '(' s = (.groupExtension ('(' :: s.take 3), s.drop 3) := if_pos hs
    rw [htoken] at h
    cases h
  · rw [← piece_eq_token hgroup]
    exact isAt_piece c s

/-- **A token and its counterpart**: what the token is read from, what follows it, and what stands
for it in an extended pattern. -/
inductive Token.Becomes : Token → Text → Text → Text → Prop
  /-- A class of characters. -/
  | classEscape {c : Char} {first : Text} (rest : Text) : c.isAlphanum = true →
    first ∈ classExpressions → (escape c).Becomes ('\\' :: c :: rest) rest first
  /-- A character after a backslash. -/
  | plainEscape {c : Char} (rest : Text) : c.isAlphanum = false →
    (escape c).Becomes ('\\' :: c :: rest) rest ['\\', c]
  /-- A bracket expression that is closed. -/
  | bracket {s rest text : Text} {items : List BracketItem} :
    ItemsAt true (bracketBody s) items .closed rest → bracketToExtended .closed items = .ok text →
      (bracket (s.head? == some '^') items .closed).Becomes ('[' :: s) rest
        ('[' :: (if s.head? == some '^' then '^' :: text else text))
  /-- An interval. -/
  | interval {bounds : Text} (rest : Text) : IsBounds bounds →
    (interval bounds).Becomes ('\x7b' :: (bounds ++ rest)) rest ('\x7b' :: bounds)
  /-- A brace that does not go on as an interval. -/
  | brace {rest : Text} : (∀ bounds more, rest = bounds ++ more → ¬IsBounds bounds) →
    (char '\x7b').Becomes ('\x7b' :: rest) rest ['\\', '\x7b']
  /-- Any other character. -/
  | char {c : Char} (rest : Text) : c ≠ '\\' → c ≠ '[' → c ≠ '\x7b' →
    (char c).Becomes (c :: rest) rest [c]

/-- **The counterpart that is found** stands for the token. -/
theorem Token.IsAt.becomes {first : Text} (h : t.IsAt s rest)
    (htext : t.toExtended afterQuantifier = .ok first) : t.Becomes s rest first := by
  cases h with
  | escape c =>
    obtain ⟨hclass, hfirst⟩ | ⟨hplain, rfl⟩ := escapeToExtended_cases htext
    · exact .classEscape rest (isAlphanum_of_mem_classes hclass) hfirst
    · exact .plainEscape rest hplain
  | backslash => cases htext
  | bracket hitems =>
    obtain ⟨text, hmembers, hfirst⟩ := bind_eq_ok_iff.mp htext
    obtain rfl := Except.ok.inj hfirst
    obtain rfl := closed_of_bracketToExtended hmembers
    exact .bracket hitems hmembers
  | interval _ hbounds =>
    obtain rfl := Except.ok.inj htext
    exact .interval rest hbounds
  | @char c _ hc hbracket hnone =>
    rw [toExtended] at htext
    split at htext
    · cases htext
    split at htext
    · rename_i hbrace
      obtain rfl := Except.ok.inj htext
      obtain rfl : c = '\x7b' := by simpa using hbrace
      exact .brace (hnone rfl)
    · rename_i hbrace
      obtain rfl := Except.ok.inj htext
      exact .char rest hc hbracket (by simpa using hbrace)

theorem Token.Becomes.isAt {first : Text} (h : t.Becomes s rest first) : t.IsAt s rest := by
  cases h with
  | classEscape | plainEscape => exact .escape _ _
  | bracket hitems => exact .bracket hitems
  | interval _ hbounds => exact .interval _ hbounds
  | brace hnone => exact .char (by decide) (by decide) fun _ => hnone
  | char _ hc hbracket hbrace => exact .char hc hbracket fun h => absurd h hbrace

/-- **A pattern and its translation**, token by token. -/
inductive Translates : Text → Text → Prop
  /-- At the end. -/
  | nil : Translates [] []
  /-- A token and its counterpart, and what follows them. -/
  | token {s rest first more : Text} {t : Token} :
    t.Becomes s rest first → tokens s = t :: tokens rest → Translates rest more →
      Translates s (first ++ more)

theorem translates_of_tokensToExtended {p q : Text}
    (h : tokensToExtended afterQuantifier (tokens p) = .ok q) : Translates p q := by
  induction p using tokens_induction generalizing afterQuantifier q with
  | nil =>
    obtain rfl := Except.ok.inj h
    exact .nil
  | cons c s ih =>
    obtain ⟨first, more, hfirst, hmore, rfl⟩ := tokensToExtended_cons_eq_ok_iff.mp h
    exact .token ((Token.isAt_of_toExtended hfirst).becomes hfirst) (tokens_cons c s) (ih hmore)

theorem translates_of_toExtended {p q : Text} (h : toExtended p = .ok q) : Translates p q :=
  translates_of_tokensToExtended h

end GnuLint.Grep
