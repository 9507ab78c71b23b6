import GnuLint.Proofs.Grep.Invocation
import GnuLint.Proofs.Grep.Reading

/-!
# Quotes around a pattern

The rewrite of a call takes the pattern for what stands between two quotes of the same kind, and
puts its translation between the same quotes. That the quotes go on to match has two sides.

* Neither the pattern nor its translation has the quote in it, since a translation inserts no
  quotes.
* Between double quotes, a backslash takes the next character with it, and so would one at the end
  of the pattern take the closing quote. But a pattern with such a backslash has no translation: in
  all that is translated, backslashes come in pairs with what follows them (`GnuLint.Grep.Pairs`),
  in the pattern as in the translation.

So the rewrite changes the flag and the pattern of a call, and the quotes close where they did
(`GnuLint.Grep.exists_spelling_of_rewrite`).

What stands between the quotes need not be what grep is given, however. Single quotes keep all that
is between them. Between double quotes, dollar signs and backquotes begin expansions, and some
backslashes are removed; a text without these is a literal (`GnuLint.Grep.IsLiteral`). The rewrite
does not ask whether a pattern is one, so that grep is given the pattern that was translated exactly
if the quotes are single or the pattern is a literal (`GnuLint.Grep.unquoted_of_rewrite`).
-/

namespace GnuLint.Grep

variable {c quote : Char} {s t rest first : Text}

/-! ### Where quotes close -/

/-- The text up to the quote that closes it, and what follows the quote; `escaped` says whether the
next character comes after a backslash. -/
def closedFrom? (quote : Char) : (escaped : Bool) → Text → Option (Text × Text)
  | _, [] => none
  | escaped, c :: s =>
    if c = quote ∧ escaped = false then some ([], s)
    else
      (closedFrom? quote (quote == '"' && c == '\\' && !escaped) s).map fun (text, rest) =>
        (c :: text, rest)

/-- **The text up to the quote that closes it**, and what follows the quote. Between double quotes,
a quote after a backslash closes nothing. What is expanded in between may have quotes of its own,
which are not looked at here. -/
def closed? (quote : Char) (s : Text) : Option (Text × Text) := closedFrom? quote false s

/-- **Backslashes come in pairs** with the characters after them. -/
inductive Pairs : Text → Prop
  /-- The empty text. -/
  | nil : Pairs []
  /-- A backslash and a character. -/
  | pair (c : Char) {s : Text} : Pairs s → Pairs ('\\' :: c :: s)
  /-- Any other character. -/
  | char {c : Char} {s : Text} : c ≠ '\\' → Pairs s → Pairs (c :: s)

theorem Pairs.append (h : Pairs s) (h' : Pairs t) : Pairs (s ++ t) := by
  induction h with
  | nil => exact h'
  | pair c _ ih => exact .pair c ih
  | char hc _ ih => exact .char hc ih

theorem pairs_of_notMem (h : '\\' ∉ s) : Pairs s := by
  induction s with
  | nil => exact .nil
  | cons c s ih =>
    obtain ⟨hc, hs⟩ := not_or.mp (mt List.mem_cons.mpr h)
    exact .char (fun he => hc he.symm) (ih hs)

/-- Only a backslash at the end can be without a character. -/
theorem pairs_concat (hc : c ≠ '\\') (s : Text) : Pairs (s ++ [c]) := by
  induction hn : s.length using Nat.strongRecOn generalizing s with
  | _ n ih =>
    match s with
    | [] => exact .char hc .nil
    | [d] =>
      by_cases hd : d = '\\'
      · rw [hd]
        exact .pair c .nil
      · exact .char hd (.char hc .nil)
    | d :: e :: s =>
      rw [List.length_cons, List.length_cons] at hn
      by_cases hd : d = '\\'
      · rw [hd]
        exact .pair e (ih s.length (by omega) s rfl)
      · exact .char hd (ih (e :: s).length (by rw [List.length_cons]; omega) (e :: s) rfl)

/-- **Quotes close where they seem to** if backslashes come in pairs. -/
theorem Pairs.closed?_append (h : Pairs s) (hs : quote ∉ s) (rest : Text) :
    closed? quote (s ++ quote :: rest) = some (s, rest) := by
  have hne {c : Char} {s : Text} (hs : quote ∉ c :: s) (escaped : Bool) :
      ¬(c = quote ∧ escaped = false) := fun h => hs (h.1 ▸ List.mem_cons_self)
  induction h with
  | nil => exact if_pos ⟨rfl, rfl⟩
  | @pair e s _ ih =>
    have hs' : quote ∉ e :: s := fun h => hs (List.mem_cons_of_mem _ h)
    have hfirst : (quote == '"' && '\\' == '\\' && !false) = (quote == '"') := by simp
    have hsecond : (quote == '"' && e == '\\' && !(quote == '"')) = false := by
      cases quote == '"' <;> simp
    have hmore : closedFrom? quote false (s ++ quote :: rest) = some (s, rest) :=
      ih fun h => hs' (List.mem_cons_of_mem _ h)
    rw [List.cons_append, List.cons_append, closed?, closedFrom?, if_neg (hne hs _), hfirst,
      closedFrom?, if_neg (hne hs' _), hsecond, hmore]
    rfl
  | @char c s hc _ ih =>
    have hescaped : (quote == '"' && c == '\\' && !false) = false := by simp [hc]
    have hmore : closedFrom? quote false (s ++ quote :: rest) = some (s, rest) :=
      ih fun h => hs (List.mem_cons_of_mem _ h)
    rw [List.cons_append, closed?, closedFrom?, if_neg (hne hs _), hescaped, hmore]
    rfl

/-! ### The backslashes of a translated pattern -/

/-- A bracket expression that is closed ends with the closing bracket. -/
theorem ItemsAt.exists_body {isFirst : Bool} {items : List BracketItem} {stop : BracketEnd}
    (h : ItemsAt isFirst s items stop rest) (hstop : stop = .closed) :
    ∃ body, s = body ++ ']' :: rest := by
  induction h with
  | closed => exact ⟨[], rfl⟩
  | unclosed => cases hstop
  | backslash => cases hstop
  | item _ hat _ ih =>
    obtain ⟨body, hbody⟩ := ih hstop
    obtain ⟨c, t, rfl, before, rfl⟩ := hat.follows
    refine ⟨c :: before ++ body, ?_⟩
    rw [hbody, List.cons_append, List.cons_append, List.append_assoc]

theorem exists_body_of_bracketToExtended {items : List BracketItem} {stop : BracketEnd}
    (h : bracketToExtended stop items = .ok first) : ∃ body, first = body ++ [']'] := by
  induction items generalizing first with
  | nil =>
    obtain rfl := closed_of_bracketToExtended h
    exact ⟨[], (Except.ok.inj h).symm⟩
  | cons item items ih =>
    obtain ⟨text, more, -, hitems, rfl⟩ := bracketToExtended_cons_iff.mp h
    obtain ⟨body, rfl⟩ := ih hitems
    exact ⟨text ++ body, (List.append_assoc _ _ _).symm⟩

/-- **Backslashes come in pairs in a token that has a counterpart**, and in the counterpart. -/
theorem Token.Becomes.pairs {t : Token} (h : t.Becomes s rest first) :
    Pairs first ∧ ∃ spelled, s = spelled ++ rest ∧ Pairs spelled := by
  cases h with
  | @classEscape c _ _ _ hclass =>
    have hclasses : ∀ q ∈ classExpressions, '\\' ∉ q := by decide
    exact ⟨pairs_of_notMem (hclasses first hclass), ['\\', c], rfl, .pair c .nil⟩
  | @plainEscape c => exact ⟨.pair c .nil, ['\\', c], rfl, .pair c .nil⟩
  | @bracket s _ text items hitems hmembers =>
    have hend {text : Text} : Pairs ('[' :: (text ++ [']'])) :=
      .char (by decide) (pairs_concat (by decide) text)
    constructor
    · obtain ⟨body, rfl⟩ := exists_body_of_bracketToExtended hmembers
      split
      · exact .char (by decide) (.char (by decide) (pairs_concat (by decide) body))
      · exact hend
    · obtain ⟨body, hbody⟩ := hitems.exists_body rfl
      obtain ⟨caret, hs⟩ := bracketBody_suffix s
      refine ⟨'[' :: (caret ++ body ++ [']']), ?_, hend⟩
      rw [← hs, hbody]
      simp
  | @interval bounds _ hbounds =>
    have hplain := pairs_of_notMem (hbounds.notMem (c := '\\') rfl (by decide))
    exact ⟨hplain, '\x7b' :: bounds, rfl, hplain⟩
  | brace => exact ⟨.pair _ .nil, ['\x7b'], rfl, .char (by decide) .nil⟩
  | @char c _ hc => exact ⟨.char hc .nil, [c], rfl, .char hc .nil⟩

theorem Translates.pairs {p q : Text} (h : Translates p q) : Pairs p ∧ Pairs q := by
  induction h with
  | nil => exact ⟨.nil, .nil⟩
  | token hbecomes _ _ ih =>
    obtain ⟨hcounterpart, spelled, rfl, hspelled⟩ := hbecomes.pairs
    exact ⟨hspelled.append ih.1, hcounterpart.append ih.2⟩

/-- **Backslashes come in pairs in a pattern that has a translation**, and in the translation. -/
theorem pairs_of_toExtended {p q : Text} (h : toExtended p = .ok q) : Pairs p ∧ Pairs q :=
  (translates_of_toExtended h).pairs

/-! ### What the quotes keep -/

/-- Whether a dollar sign between double quotes begins an expansion, by what comes after it: a name,
a number or a sign for a parameter, or the beginning of a longer expansion. -/
def expands (s : Text) : Bool :=
  s.head?.any fun c => c.isAlphanum || c ∈ "_@*#?-$!\x7b([".toList

/-- Whether a backslash before a character is removed between double quotes. -/
def isUnescaped (c : Char) : Bool := c ∈ "$\x60\"\\\n".toList

/-- What becomes of a backslash and a character between double quotes. A newline is removed together
with the backslash. -/
def unescape (c : Char) : Text :=
  if c = '\n' then [] else if isUnescaped c then [c] else ['\\', c]

/-- What the shell makes of a text between double quotes, or `none` if something in it is
expanded. -/
def unquoteDouble? : Text → Option Text
  | [] => some []
  | '\\' :: c :: s => (unquoteDouble? s).map (unescape c ++ ·)
  | c :: s =>
    if c = '\x60' ∨ c = '$' ∧ expands s = true then none
    else (unquoteDouble? s).map (c :: ·)

/-- **What the shell makes of a text between quotes**, or `none` if something in it is expanded. -/
def unquote? (quote : Char) (s : Text) : Option Text :=
  if quote = '\'' then some s else unquoteDouble? s

/-- **A text is a literal** between double quotes: nothing in it is expanded, and no backslash is
removed. -/
structure IsLiteral (s : Text) : Prop where
  /-- No dollar sign begins an expansion. -/
  expands : ∀ rest, '$' :: rest <:+ s → expands rest = false
  /-- There are no backquotes. -/
  backquote : '\x60' ∉ s
  /-- No backslash is removed. -/
  backslash : ∀ c rest, '\\' :: c :: rest <:+ s → isUnescaped c = false

theorem isLiteral_cons_iff :
    IsLiteral (c :: s) ↔ (c = '$' → expands s = false) ∧ c ≠ '\x60' ∧
      (c = '\\' → ∀ e ∈ s.head?, isUnescaped e = false) ∧ IsLiteral s := by
  constructor
  · intro h
    refine ⟨?_, fun hc => h.backquote (hc ▸ List.mem_cons_self), ?_, fun rest hrest => ?_,
      fun hmem => h.backquote (List.mem_cons_of_mem c hmem), fun e rest hrest => ?_⟩
    · rintro rfl
      exact h.expands s (List.suffix_refl _)
    · rintro rfl e he
      obtain ⟨t, rfl⟩ := List.head?_eq_some_iff.mp he
      exact h.backslash e t (List.suffix_refl _)
    · exact h.expands rest (hrest.trans (List.suffix_cons c s))
    · exact h.backslash e rest (hrest.trans (List.suffix_cons c s))
  · rintro ⟨hdollar, hbackquote, hbackslash, h⟩
    refine ⟨fun rest hrest => ?_, fun hmem => ?_, fun e rest hrest => ?_⟩
    · obtain heq | hrest := List.suffix_cons_iff.mp hrest
      · obtain ⟨rfl, rfl⟩ := List.cons.inj heq
        exact hdollar rfl
      · exact h.expands rest hrest
    · obtain heq | hmem := List.mem_cons.mp hmem
      · exact hbackquote heq.symm
      · exact h.backquote hmem
    · obtain heq | hrest := List.suffix_cons_iff.mp hrest
      · obtain ⟨rfl, rfl⟩ := List.cons.inj heq
        exact hbackslash rfl e rfl
      · exact h.backslash e rest hrest

theorem isLiteral_pair_iff :
    IsLiteral ('\\' :: c :: s) ↔ isUnescaped c = false ∧ IsLiteral s := by
  rw [isLiteral_cons_iff, isLiteral_cons_iff]
  constructor
  · rintro ⟨-, -, hc, -, -, -, hs⟩
    exact ⟨hc rfl c rfl, hs⟩
  · rintro ⟨hc, hs⟩
    have hne (d : Char) (hd : isUnescaped d = true) : c ≠ d := by
      rintro rfl
      rw [hd] at hc
      cases hc
    have hdollar : c ≠ '$' := hne '$' (by decide)
    have hbackquote : c ≠ '\x60' := hne '\x60' (by decide)
    have hbackslash : c ≠ '\\' := hne '\\' (by decide)
    exact ⟨by simp, by decide, by simpa using hc, by simp [hdollar], hbackquote,
      by simp [hbackslash], hs⟩

theorem unescape_of_not_isUnescaped (h : isUnescaped c = false) : unescape c = ['\\', c] := by
  have hnewline : c ≠ '\n' := by
    rintro rfl
    cases h
  rw [unescape, if_neg hnewline, if_neg (by simp [h])]

theorem length_unescape_le (c : Char) :
    (unescape c).length ≤ 2 ∧ ((unescape c).length = 2 → isUnescaped c = false) := by
  unfold unescape
  split
  · simp
  · split <;> simp_all

/-- The shell makes no text longer. -/
theorem length_le_of_unquoteDouble? (h : unquoteDouble? s = some t) : t.length ≤ s.length := by
  fun_induction unquoteDouble? s generalizing t with
  | case1 =>
    obtain rfl := Option.some.inj h
    exact Nat.le_refl _
  | case2 c s ih =>
    obtain ⟨u, hu, rfl⟩ := Option.map_eq_some_iff.mp h
    have hmore := ih hu
    have hpair := (length_unescape_le c).1
    simp only [List.length_append, List.length_cons]
    omega
  | case3 => cases h
  | case4 c s _ _ ih =>
    obtain ⟨u, hu, rfl⟩ := Option.map_eq_some_iff.mp h
    exact Nat.succ_le_succ (ih hu)

/-- **The shell keeps a text between double quotes exactly if it is a literal.** -/
theorem unquoteDouble?_eq_self_iff (s : Text) : unquoteDouble? s = some s ↔ IsLiteral s := by
  fun_induction unquoteDouble? s with
  | case1 => exact iff_of_true rfl ⟨by simp, by simp, by simp⟩
  | case2 c s ih =>
    rw [isLiteral_pair_iff, ← ih]
    constructor
    · intro h
      obtain ⟨u, hu, heq⟩ := Option.map_eq_some_iff.mp h
      -- if the backslash were removed, what is made of the rest would have to be longer than it
      have hlength := congrArg List.length heq
      have hmore := length_le_of_unquoteDouble? hu
      obtain ⟨hpair, hkept⟩ := length_unescape_le c
      simp only [List.length_append, List.length_cons] at hlength
      have hc : isUnescaped c = false := hkept (by omega)
      rw [unescape_of_not_isUnescaped hc] at heq
      obtain rfl : u = s := by simpa using heq
      exact ⟨hc, hu⟩
    · rintro ⟨hc, hs⟩
      rw [hs, unescape_of_not_isUnescaped hc]
      rfl
  | case3 c s _ hexpands =>
    refine iff_of_false (by simp) fun h => ?_
    obtain ⟨hdollar, hbackquote, -⟩ := isLiteral_cons_iff.mp h
    rcases hexpands with hc | ⟨hc, hs⟩
    · exact hbackquote hc
    · rw [hdollar hc] at hs
      cases hs
  | case4 c s hpair hexpands ih =>
    rw [isLiteral_cons_iff, ← ih]
    obtain ⟨hbackquote, hdollar⟩ := not_or.mp hexpands
    have hlast (hc : c = '\\') : ∀ e ∈ s.head?, isUnescaped e = false := by
      intro e he
      obtain ⟨t, rfl⟩ := List.head?_eq_some_iff.mp he
      exact absurd rfl (hpair e t hc)
    constructor
    · intro h
      obtain ⟨u, hu, heq⟩ := Option.map_eq_some_iff.mp h
      obtain rfl := (List.cons.inj heq).2
      exact ⟨fun hc => by simpa using fun hs => hdollar ⟨hc, hs⟩, hbackquote, hlast, hu⟩
    · rintro ⟨-, -, -, hs⟩
      rw [hs]
      rfl

theorem unquote?_eq_self_iff (quote : Char) (s : Text) :
    unquote? quote s = some s ↔ quote = '\'' ∨ IsLiteral s := by
  by_cases hsingle : quote = '\''
  · rw [unquote?, if_pos hsingle]
    exact iff_of_true rfl (.inl hsingle)
  · rw [unquote?, if_neg hsingle, unquoteDouble?_eq_self_iff]
    exact (or_iff_right hsingle).symm

instance (s : Text) : Decidable (IsLiteral s) :=
  decidable_of_iff _ (unquoteDouble?_eq_self_iff s)

/-- The translation of a literal need not be one, since it leaves out backslashes. -/
example : IsLiteral "[$\\(]".toList ∧ toExtended "[$\\(]".toList = .ok "[$(]".toList ∧
    ¬IsLiteral "[$(]".toList := by
  decide +kernel

/-! ### The rewrite of a call -/

/-- **The parts of a call** are what they should be. -/
structure Invocation.IsWellFormed (call : Invocation) : Prop where
  /-- There are blanks after the word. -/
  blanks_ne_nil : call.blanks ≠ []
  /-- They are nothing but blanks. -/
  isBlank_blanks : ∀ c ∈ call.blanks, Text.isBlank c = true
  /-- The flags before the last `P` are letters. -/
  isAlpha_flagsBefore : ∀ c ∈ call.flagsBefore, c.isAlpha = true
  /-- The flags after it are. -/
  isAlpha_flagsAfter : ∀ c ∈ call.flagsAfter, c.isAlpha = true
  /-- There are blanks before the pattern. -/
  gap_ne_nil : call.gap ≠ []
  /-- They are nothing but blanks. -/
  isBlank_gap : ∀ c ∈ call.gap, Text.isBlank c = true
  /-- The quotes are of one of two kinds. -/
  isQuote : call.quoted.quote = '\'' ∨ call.quoted.quote = '"'
  /-- The pattern has no such quotes in it. -/
  quote_notMem : call.quoted.quote ∉ call.quoted.pattern

variable {line fixed before after : Text} {offset : Nat} {call : Invocation}

/-- What is read as a call is well-formed. -/
theorem isWellFormed_of_invocation? (h : invocation? s = some (call, rest)) :
    call.IsWellFormed := by
  obtain ⟨t, u, -, hblanks, -, hflags, hgap, hquoted, hsome, hsome'⟩ := parts_of_invocation? h
  obtain ⟨hquote, hpattern⟩ := quote_of_quotedPattern? hquoted
  have hletters : ∀ c ∈ call.flagsBefore ++ 'P' :: call.flagsAfter, c.isAlpha = true := by
    rw [← append_of_splitFlags hflags]
    exact fun c hc => List.mem_takeWhile_imp hc
  exact ⟨hsome, fun c hc => List.mem_takeWhile_imp (hblanks ▸ hc),
    fun c hc => hletters c (List.mem_append_left _ hc),
    fun c hc => hletters c (List.mem_append_right _ (List.mem_cons_of_mem _ hc)), hsome',
    fun c hc => List.mem_takeWhile_imp (hgap ▸ hc), hquote, hpattern⟩

theorem isWellFormed_of_find? (h : find? s = some (before, call, after)) : call.IsWellFormed := by
  obtain ⟨t, -, hcall⟩ := invocation?_of_find? h
  exact isWellFormed_of_invocation? hcall

/-- A translation has no quotes that the pattern does not have. -/
theorem quote_notMem_of_toExtended {p q : Text} (h : toExtended p = .ok q)
    (hquote : quote = '\'' ∨ quote = '"') (hp : quote ∉ p) : quote ∉ q := by
  have hinserted : quote ∉ inserted := by
    rcases hquote with rfl | rfl <;> decide
  intro hmem
  exact (List.mem_append.mp (subset_of_toExtended h hmem)).elim hp hinserted

/-- **The rewrite changes the flag and the pattern of a call, and keeps the quotes.** A line that is
rewritten has a well-formed call at the offset or after it. The line that comes out differs from it
in that there is an `E` for the last `P` of the call and a translation for the pattern. Neither has
the quote in it that stands around them, and both times the quote closes right after them. -/
theorem exists_spelling_of_rewrite (h : rewrite line offset = .ok (.rewritten fixed)) :
    ∃ (before : Text) (call : Invocation) (after pattern : Text),
      offset ≤ Text.byteLength before ∧ call.IsWellFormed ∧
      toExtended call.quoted.pattern = .ok pattern ∧
      line = before ++ call.spelling 'P' call.quoted.pattern ++ after ∧
      fixed = before ++ call.spelling 'E' pattern ++ after ∧
      call.quoted.quote ∉ call.quoted.pattern ∧ call.quoted.quote ∉ pattern ∧
      closed? call.quoted.quote (call.quoted.pattern ++ call.quoted.quote :: after) =
        some (call.quoted.pattern, after) ∧
      closed? call.quoted.quote (pattern ++ call.quoted.quote :: after) =
        some (pattern, after) := by
  obtain ⟨start, s, before, call, after, pattern, hcut, hfound, hpattern, rfl⟩ :=
    find?_of_rewrite h
  have hcall := isWellFormed_of_find? hfound
  have htranslation := quote_notMem_of_toExtended hpattern hcall.isQuote hcall.quote_notMem
  obtain ⟨hpairs, hpairs'⟩ := pairs_of_toExtended hpattern
  refine ⟨start ++ before, call, after, pattern, ?_, hcall, hpattern, ?_, ?_, hcall.quote_notMem,
    htranslation, hpairs.closed?_append hcall.quote_notMem after,
    hpairs'.closed?_append htranslation after⟩
  · rw [Text.byteLength_append]
    exact Nat.le_add_right_of_le (le_byteLength_of_cutFrom? hcut)
  · rw [append_of_cutFrom? hcut, append_of_find? hfound]
    simp only [List.append_assoc]
  · simp only [List.append_assoc]

/-- Two flags, two blanks, and a pattern between double quotes that has single ones in it. -/
theorem exists_spelling_of_rewrite_twoFlags :
    rewrite "x; grep  -Pi \"'\\d\\.'\" f".toList 3 =
        .ok (.rewritten "x; grep  -Ei \"'[0-9]\\.'\" f".toList) ∧
      ∃ (before : Text) (call : Invocation) (after pattern : Text),
        3 ≤ Text.byteLength before ∧ call.IsWellFormed ∧
        "x; grep  -Pi \"'\\d\\.'\" f".toList =
          before ++ call.spelling 'P' call.quoted.pattern ++ after ∧
        "x; grep  -Ei \"'[0-9]\\.'\" f".toList = before ++ call.spelling 'E' pattern ++ after ∧
        closed? call.quoted.quote (pattern ++ call.quoted.quote :: after) =
          some (pattern, after) := by
  have h : rewrite "x; grep  -Pi \"'\\d\\.'\" f".toList 3 =
      .ok (.rewritten "x; grep  -Ei \"'[0-9]\\.'\" f".toList) := by decide +kernel
  obtain ⟨before, call, after, pattern, hoffset, hcall, -, hline, hfixed, -, -, -, hclosed⟩ :=
    exists_spelling_of_rewrite h
  exact ⟨h, before, call, after, pattern, hoffset, hcall, hline, hfixed, hclosed⟩

/-- **When grep is given the pattern that was translated.** A line is rewritten exactly if the first
call from the offset on has a pattern with a translation; nothing else is asked of the pattern. The
shell takes for quoted what was taken for the pattern, but keeps it as it is only if the quotes are
single or the pattern is a literal. -/
theorem unquoted_of_rewrite (line fixed : Text) (offset : Nat) :
    rewrite line offset = .ok (.rewritten fixed) ↔
      ∃ (start s before : Text) (call : Invocation) (after pattern : Text),
        cutFrom? line offset = some (start, s) ∧ find? s = some (before, call, after) ∧
        toExtended call.quoted.pattern = .ok pattern ∧
        fixed = start ++ (before ++ call.spelling 'E' pattern ++ after) ∧
        (call.quoted.quote = '\'' ∨ call.quoted.quote = '"') ∧
        closed? call.quoted.quote (call.quoted.pattern ++ call.quoted.quote :: after) =
          some (call.quoted.pattern, after) ∧
        (unquote? call.quoted.quote call.quoted.pattern = some call.quoted.pattern ↔
          call.quoted.quote = '\'' ∨ IsLiteral call.quoted.pattern) := by
  constructor
  · intro h
    obtain ⟨start, s, before, call, after, pattern, hcut, hfound, hpattern, hfixed⟩ :=
      find?_of_rewrite h
    have hcall := isWellFormed_of_find? hfound
    have hpairs := (pairs_of_toExtended hpattern).1
    exact ⟨start, s, before, call, after, pattern, hcut, hfound, hpattern, hfixed, hcall.isQuote,
      hpairs.closed?_append hcall.quote_notMem after, unquote?_eq_self_iff _ _⟩
  · rintro ⟨start, s, before, call, after, pattern, hcut, hfound, hpattern, rfl, -⟩
    rw [rewrite, hcut]
    simp only [hfound, hpattern, List.append_assoc]

/-- **A parameter between double quotes** is expanded before grep is given the pattern, and yet the
text around it is translated. -/
theorem unquoted_of_rewrite_parameter :
    rewrite "grep -P \"$x\\d\" f".toList 0 =
        .ok (.rewritten "grep -E \"$x[0-9]\" f".toList) ∧
      find? "grep -P \"$x\\d\" f".toList =
        some ([], ⟨[' '], [], [], [' '], '"', "$x\\d".toList⟩, " f".toList) ∧
      unquote? '"' "$x\\d".toList = none ∧ ¬IsLiteral "$x\\d".toList :=
  ⟨by decide +kernel, by decide +kernel, by decide +kernel, by decide +kernel⟩

end GnuLint.Grep
