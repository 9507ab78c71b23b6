import GnuLint.Grep.Invocation
import GnuLint.Proofs.Grep.Reading
import Mathlib.Data.List.Basic

/-!
# What the rewrite of a call of grep keeps

The rewrite puts an `E` for a `P` and a translated pattern for the pattern, and copies
everything else: the line it is given reads as a text, a call and another text, and so does
the line that it returns (`GnuLint.Grep.exists_call_of_rewrite`).

A translation, too, is made of what stands in the pattern, and of a few characters besides
that it inserts (`GnuLint.Grep.subset_of_toExtended`). So a line that has been rewritten
falls into lines no more than the line before.
-/

namespace GnuLint.Grep

variable {c : Char} {p q s rest : Text}

/-! ### The characters of a translation -/

/-- The characters of an item of a bracket expression. -/
def BracketItem.chars : BracketItem → Text
  | escape c | char c => [c]
  | className text => text

/-- The characters of a token. -/
def Token.chars : Token → Text
  | escape c | char c => [c]
  | backslash => []
  | groupExtension text => text
  | bracket _ items _ => items.flatMap BracketItem.chars
  | interval bounds => bounds

/-- The characters that a translation inserts. -/
def inserted : Text := "[]^\\\x7b:-_09alnumspce".toList

theorem subset_cons_inserted (h : q ⊆ inserted) (c : Char) : q ⊆ c :: inserted :=
  List.Subset.trans h (List.subset_cons_self c inserted)

theorem subset_of_bracketEscape (h : bracketEscape c = .ok q) : q ⊆ c :: inserted := by
  have hmembers : ∀ q ∈ classMembers, q ⊆ inserted := by decide
  obtain ⟨-, hclass⟩ | ⟨-, -, rfl⟩ := bracketEscape_cases h
  · exact subset_cons_inserted (hmembers q hclass) c
  · exact List.cons_subset_cons c (List.nil_subset _)

theorem subset_of_escapeToExtended (h : escapeToExtended c = .ok q) : q ⊆ c :: inserted := by
  have hclasses : ∀ q ∈ classExpressions, q ⊆ inserted := by decide
  obtain ⟨-, hclass⟩ | ⟨-, rfl⟩ := escapeToExtended_cases h
  · exact subset_cons_inserted (hclasses q hclass) c
  · exact List.cons_subset.mpr ⟨List.mem_cons_of_mem _ (by decide),
      List.cons_subset_cons c (List.nil_subset _)⟩

theorem BracketItem.subset_of_toExtended {item : BracketItem} (h : item.toExtended = .ok q) :
    q ⊆ item.chars ++ inserted := by
  cases item with
  | escape c => exact subset_of_bracketEscape h
  | className text =>
    obtain rfl := Except.ok.inj h
    refine List.cons_subset.mpr ⟨List.mem_append_right _ (by decide), ?_⟩
    exact List.subset_append_left text inserted
  | char c =>
    obtain rfl := Except.ok.inj h
    exact List.subset_append_left [c] inserted

theorem subset_of_bracketToExtended {items : List BracketItem} {stop : BracketEnd}
    (h : bracketToExtended stop items = .ok q) :
    q ⊆ items.flatMap BracketItem.chars ++ inserted := by
  induction items generalizing q with
  | nil =>
    cases stop with
    | closed =>
      obtain rfl := Except.ok.inj h
      decide
    | unclosed => cases h
    | backslash => cases h
  | cons item items ih =>
    obtain ⟨first, after, hfirst, hafter, rfl⟩ := bracketToExtended_cons_iff.mp h
    have hitem := BracketItem.subset_of_toExtended hfirst
    have hitems := ih hafter
    grind

/-- **The counterpart of a token is made of its characters** and of inserted ones. -/
theorem Token.subset_of_toExtended {t : Token} {afterQuantifier : Bool}
    (h : t.toExtended afterQuantifier = .ok q) : q ⊆ t.chars ++ inserted := by
  cases t with
  | escape c => exact subset_of_escapeToExtended h
  | backslash => cases h
  | groupExtension text => cases h
  | bracket negated items stop =>
    obtain ⟨after, hafter, hq⟩ := bind_eq_ok_iff.mp h
    obtain rfl := Except.ok.inj hq
    have hitems := subset_of_bracketToExtended hafter
    have hopening : '[' ∈ inserted := by decide
    have hcaret : '^' ∈ inserted := by decide
    cases negated with
    | true =>
      exact List.cons_subset.mpr ⟨List.mem_append_right _ hopening,
        List.cons_subset.mpr ⟨List.mem_append_right _ hcaret, hitems⟩⟩
    | false => exact List.cons_subset.mpr ⟨List.mem_append_right _ hopening, hitems⟩
  | interval bounds =>
    obtain rfl := Except.ok.inj h
    exact List.cons_subset.mpr ⟨List.mem_append_right _ (by decide),
      List.subset_append_left bounds inserted⟩
  | char c =>
    have hself : [c] ⊆ c :: inserted := List.cons_subset_cons c (List.nil_subset _)
    rw [toExtended] at h
    split at h
    · cases h
    · split at h
      · obtain rfl := Except.ok.inj h
        exact List.cons_subset.mpr ⟨List.mem_cons_of_mem _ (by decide), hself⟩
      · obtain rfl := Except.ok.inj h
        exact hself

/-! ### The characters of tokens -/

theorem chars_bracketItems (n : Nat) (isFirst : Bool) (s : Text) :
    (bracketItems n isFirst s).1.flatMap BracketItem.chars ⊆ s := by
  fun_induction bracketItems n isFirst s with
  | case1 => exact List.nil_subset _
  | case2 => exact List.nil_subset _
  | case3 => exact List.nil_subset _
  | case4 => exact List.nil_subset _
  | case5 n isFirst e s items stop rest hmore _ ih =>
    rw [hmore] at ih
    exact List.subset_cons_of_subset _ (List.cons_subset_cons e ih)
  | case6 n isFirst c s _ _ _ name s' hname items stop rest hmore ih =>
    rw [hmore] at ih
    have hs : name ++ s' = s := by simpa [hname] using append_splitBracket s
    refine List.subset_cons_of_subset _ (List.append_subset.mpr ⟨?_, ?_⟩)
    · exact hs ▸ List.subset_append_left name s'
    · exact List.Subset.trans ih (hs ▸ List.subset_append_right name s')
  | case7 n isFirst c s _ _ _ items stop rest hmore ih =>
    rw [hmore] at ih
    exact List.cons_subset_cons c ih

/-- **The characters of a token stand at the beginning of what it is read from.** -/
theorem chars_token (c : Char) (s : Text) : (token c s).1.chars ⊆ c :: s := by
  unfold token
  split
  · split
    · exact List.nil_subset _
    · exact List.subset_cons_of_subset _ (List.cons_subset_cons _ (List.nil_subset _))
  · split
    · exact List.cons_subset_cons _ (List.take_subset 3 s)
    · exact List.cons_subset_cons _ (List.nil_subset _)
  · rw [bracket_eq]
    exact List.subset_cons_of_subset _
      (List.Subset.trans (chars_bracketItems _ _ _) (bracketBody_suffix s).subset)
  · split
    · rename_i hinterval
      obtain ⟨-, rfl⟩ := interval?_eq_some_iff.mp hinterval
      exact List.subset_cons_of_subset _ (List.subset_append_left _ _)
    · exact List.cons_subset_cons _ (List.nil_subset _)
  · exact List.cons_subset_cons _ (List.nil_subset _)

theorem subset_of_tokensToExtended {afterQuantifier : Bool}
    (h : tokensToExtended afterQuantifier (tokens p) = .ok q) : q ⊆ p ++ inserted := by
  induction p using tokens_induction generalizing afterQuantifier q with
  | nil =>
    obtain rfl := Except.ok.inj h
    exact List.nil_subset _
  | cons c s ih =>
    obtain ⟨first, more, hfirst, hmore, rfl⟩ := tokensToExtended_cons_eq_ok_iff.mp h
    have hchars := chars_token c s
    have hrest := (token_suffix c s).subset
    have htoken := Token.subset_of_toExtended hfirst
    have hmade := ih hmore
    grind

/-- **A translation is made of the characters of the pattern** and of inserted ones. -/
theorem subset_of_toExtended (h : toExtended p = .ok q) : q ⊆ p ++ inserted :=
  subset_of_tokensToExtended h

/-! ### Reading a call -/

theorem append_of_splitFlags {flags before after : Text}
    (h : splitFlags flags = some (before, after)) :
    flags = before ++ 'P' :: after := by
  induction flags generalizing before with
  | nil => cases h
  | cons c flags ih =>
    rw [splitFlags] at h
    split at h
    · rename_i before' after' hmore
      obtain ⟨rfl, rfl⟩ := Prod.mk.inj (Option.some.inj h)
      rw [ih hmore]
      rfl
    · split at h
      · rename_i hc
        obtain ⟨rfl, rfl⟩ := Prod.mk.inj (Option.some.inj h)
        rw [hc]
        rfl
      · cases h

theorem append_of_quotedPattern? {quoted : QuotedPattern}
    (h : quotedPattern? s = some (quoted, rest)) :
    s = quoted.quote :: quoted.pattern ++ quoted.quote :: rest := by
  unfold quotedPattern? at h
  split at h
  · cases h
  · rename_i quote s
    split at h
    · split at h
      · rename_i stop rest' hstop
        obtain ⟨rfl, rfl⟩ := Prod.mk.inj (Option.some.inj h)
        have hs := List.takeWhile_append_dropWhile (p := (· != quote)) (l := s)
        have hhead := List.head_dropWhile_not (· != quote) (l := s) (by simp [hstop])
        simp only [hstop, List.head_cons, bne_eq_false_iff_eq] at hhead
        rw [hstop, hhead] at hs
        rw [List.cons_append, hs]
      · cases h
    · cases h

/-- A quoted pattern has quotes of one of two kinds, and none of them in it. -/
theorem quote_of_quotedPattern? {quoted : QuotedPattern}
    (h : quotedPattern? s = some (quoted, rest)) :
    (quoted.quote = '\'' ∨ quoted.quote = '"') ∧ quoted.quote ∉ quoted.pattern := by
  unfold quotedPattern? at h
  split at h
  · cases h
  · rename_i quote s
    split at h
    · rename_i hquote
      split at h
      · obtain ⟨rfl, -⟩ := Prod.mk.inj (Option.some.inj h)
        refine ⟨hquote, fun hmem => ?_⟩
        simpa using List.mem_takeWhile_imp hmem
      · cases h
    · cases h

theorem Invocation.spelling_append (call : Invocation) (flag : Char) (pattern rest : Text) :
    call.spelling flag pattern ++ rest = "grep".toList ++ (call.blanks ++ '-' ::
      (call.flagsBefore ++ flag :: (call.flagsAfter ++ (call.gap ++ call.quoted.quote ::
        (pattern ++ call.quoted.quote :: rest))))) := by
  unfold Invocation.spelling
  generalize "grep".toList = word
  simp

/-- **What is read as a call**, part after part. -/
theorem parts_of_invocation? {call : Invocation} (h : invocation? s = some (call, rest)) :
    ∃ t u, s = "grep".toList ++ t ∧
      t.takeWhile Text.isBlank = call.blanks ∧ t.dropWhile Text.isBlank = '-' :: u ∧
      splitFlags (u.takeWhile Char.isAlpha) = some (call.flagsBefore, call.flagsAfter) ∧
      (u.dropWhile Char.isAlpha).takeWhile Text.isBlank = call.gap ∧
      quotedPattern? ((u.dropWhile Char.isAlpha).dropWhile Text.isBlank) =
        some (call.quoted, rest) ∧
      call.blanks ≠ [] ∧ call.gap ≠ [] := by
  obtain ⟨t, hword, hcall⟩ := Option.bind_eq_some_iff.mp h
  dsimp only at hcall
  split at hcall
  · rename_i u hdash
    obtain ⟨⟨before, after⟩, hflags, hpattern⟩ := Option.bind_eq_some_iff.mp hcall
    obtain ⟨⟨quoted, rest'⟩, hquoted, hparts⟩ := Option.bind_eq_some_iff.mp hpattern
    obtain ⟨hblanks, hparts⟩ := Option.ite_none_left_eq_some.mp hparts
    obtain ⟨rfl, rfl⟩ := Prod.mk.inj (Option.some.inj hparts)
    refine ⟨t, u, Text.stripStart?_eq_some_iff.mp hword, rfl, hdash, hflags, rfl, hquoted, ?_⟩
    simpa [not_or] using hblanks
  · cases hcall

/-- **A call is read where its spelling begins.** -/
theorem append_of_invocation? {call : Invocation} (h : invocation? s = some (call, rest)) :
    s = call.spelling 'P' call.quoted.pattern ++ rest := by
  obtain ⟨t, u, rfl, hblanks, hdash, hflags, hgap, hquoted, -⟩ := parts_of_invocation? h
  have hword := List.takeWhile_append_dropWhile (p := Text.isBlank) (l := t)
  have hletters := List.takeWhile_append_dropWhile (p := Char.isAlpha) (l := u)
  have hpattern := List.takeWhile_append_dropWhile (p := Text.isBlank)
    (l := u.dropWhile Char.isAlpha)
  rw [append_of_splitFlags hflags] at hletters
  rw [hgap, append_of_quotedPattern? hquoted] at hpattern
  rw [hblanks, hdash, ← hletters, ← hpattern] at hword
  rw [Invocation.spelling_append]
  refine congrArg ("grep".toList ++ ·) (hword.symm.trans ?_)
  simp only [List.append_assoc, List.cons_append]

/-- **The first call of a text** is read where it stands. -/
theorem invocation?_of_find? {before after : Text} {call : Invocation}
    (h : find? s = some (before, call, after)) :
    ∃ t, s = before ++ t ∧ invocation? t = some (call, after) := by
  induction s generalizing before with
  | nil => cases h
  | cons c s ih =>
    rw [find?] at h
    split at h
    · rename_i hcall
      obtain ⟨rfl, hmore⟩ := Prod.mk.inj (Option.some.inj h)
      obtain ⟨rfl, rfl⟩ := Prod.mk.inj hmore
      exact ⟨c :: s, rfl, hcall⟩
    · obtain ⟨⟨before', call', after'⟩, hfound, heq⟩ := Option.map_eq_some_iff.mp h
      obtain ⟨rfl, hmore⟩ := Prod.mk.inj heq
      obtain ⟨rfl, rfl⟩ := Prod.mk.inj hmore
      obtain ⟨t, rfl, ht⟩ := ih hfound
      exact ⟨t, rfl, ht⟩

theorem append_of_find? {before after : Text} {call : Invocation}
    (h : find? s = some (before, call, after)) :
    s = before ++ call.spelling 'P' call.quoted.pattern ++ after := by
  obtain ⟨t, rfl, hcall⟩ := invocation?_of_find? h
  rw [append_of_invocation? hcall, List.append_assoc]

theorem append_of_cutFrom? {n : Nat} {before after : Text}
    (h : cutFrom? s n = some (before, after)) : s = before ++ after := by
  fun_induction cutFrom? s n generalizing before with
  | case1 s =>
    obtain ⟨rfl, rfl⟩ := Prod.mk.inj (Option.some.inj h)
    rfl
  | case2 n => cases h
  | case3 c s n ih =>
    obtain ⟨⟨before', after'⟩, hcut, heq⟩ := Option.map_eq_some_iff.mp h
    obtain ⟨rfl, rfl⟩ := Prod.mk.inj heq
    rw [ih hcut]
    rfl

/-- The cut is not before the offset. -/
theorem le_byteLength_of_cutFrom? {n : Nat} {before after : Text}
    (h : cutFrom? s n = some (before, after)) : n ≤ Text.byteLength before := by
  fun_induction cutFrom? s n generalizing before with
  | case1 s => exact Nat.zero_le _
  | case2 n => cases h
  | case3 c s n ih =>
    obtain ⟨⟨before', after'⟩, hcut, heq⟩ := Option.map_eq_some_iff.mp h
    obtain ⟨rfl, rfl⟩ := Prod.mk.inj heq
    have hmore := ih hcut
    rw [Text.byteLength_cons]
    omega

/-- There is a cut unless the offset lies past the end. -/
theorem isSome_cutFrom? (s : Text) (n : Nat) :
    (cutFrom? s n).isSome = true ↔ n ≤ Text.byteLength s := by
  fun_induction cutFrom? s n with
  | case1 s => simp
  | case2 n => simp
  | case3 c s n ih =>
    rw [Option.isSome_map, ih, Text.byteLength_cons]
    omega

/-- At the end of a beginning there is a character boundary, and the cut is there. -/
theorem cutFrom?_byteLength (before after : Text) :
    cutFrom? (before ++ after) (Text.byteLength before) = some (before, after) := by
  induction before with
  | nil => cases after <;> rfl
  | cons c s ih =>
    have hpos : 0 < c.utf8Size := Char.utf8Size_pos c
    obtain ⟨k, hk⟩ : ∃ k, c.utf8Size + Text.byteLength s = k + 1 :=
      ⟨c.utf8Size + Text.byteLength s - 1, by omega⟩
    have hsub : k + 1 - c.utf8Size = Text.byteLength s := by omega
    rw [Text.byteLength_cons, hk, List.cons_append, cutFrom?, hsub, ih]
    rfl

/-! ### Rewriting a call -/

/-- **The rewrite gives an answer** unless the offset lies past the end of the line. -/
theorem exists_rewrite_eq_ok_iff {line : Text} {offset : Nat} :
    (∃ outcome, rewrite line offset = .ok outcome) ↔ offset ≤ Text.byteLength line := by
  rw [← isSome_cutFrom?, rewrite]
  split
  · rename_i hnone
    simp [hnone]
  · rename_i start s hcut
    rw [hcut]
    refine iff_of_true ?_ rfl
    split
    · exact ⟨_, rfl⟩
    · split
      · exact ⟨_, rfl⟩
      · exact ⟨_, rfl⟩

/-- **What the rewrite does.** It looks for the first call from the offset on, and writes it
with another flag and with the translation of its pattern. -/
theorem find?_of_rewrite {line fixed : Text} {offset : Nat}
    (h : rewrite line offset = .ok (.rewritten fixed)) :
    ∃ (start s before : Text) (call : Invocation) (after pattern : Text),
      cutFrom? line offset = some (start, s) ∧ find? s = some (before, call, after) ∧
      toExtended call.quoted.pattern = .ok pattern ∧
      fixed = start ++ (before ++ call.spelling 'E' pattern ++ after) := by
  rw [rewrite] at h
  split at h
  · cases h
  rename_i start s hcut
  split at h
  · cases h
  rename_i before call after hfound
  split at h
  · cases h
  rename_i pattern hpattern
  obtain rfl := Outcome.rewritten.inj (Except.ok.inj h)
  refine ⟨start, s, before, call, after, pattern, hcut, hfound, hpattern, ?_⟩
  simp only [List.append_assoc]

/-- **What the rewrite keeps.** A line that is rewritten has a call at the offset or after it, with
texts around it; nothing but the flag and the pattern of the call is changed. -/
theorem exists_call_of_rewrite {line fixed : Text} {offset : Nat}
    (h : rewrite line offset = .ok (.rewritten fixed)) :
    ∃ (before : Text) (call : Invocation) (after pattern : Text),
      offset ≤ Text.byteLength before ∧
      toExtended call.quoted.pattern = .ok pattern ∧
      line = before ++ call.spelling 'P' call.quoted.pattern ++ after ∧
      fixed = before ++ call.spelling 'E' pattern ++ after := by
  obtain ⟨start, s, before, call, after, pattern, hcut, hfound, hpattern, rfl⟩ :=
    find?_of_rewrite h
  refine ⟨start ++ before, call, after, pattern, ?_, hpattern, ?_, ?_⟩
  · rw [Text.byteLength_append]
    exact Nat.le_add_right_of_le (le_byteLength_of_cutFrom? hcut)
  · rw [append_of_cutFrom? hcut, append_of_find? hfound]
    simp only [List.append_assoc]
  · simp only [List.append_assoc]

end GnuLint.Grep

namespace GnuLint.Registry

/-! ### The rewrites that come with the program -/

theorem mem_of_get? {registry : Registry} {name : String} {rewrite : Rewrite}
    (h : registry.get? name = some rewrite) : (name, rewrite) ∈ registry.entries := by
  obtain ⟨before, after, hentries, -⟩ := List.lookup_eq_some_iff.mp h
  rw [hentries]
  exact List.mem_append_right _ List.mem_cons_self

theorem mem_insertInto {name : String} {rewrite : Rewrite} {entry : String × Rewrite}
    {entries : List (String × Rewrite)} (h : entry ∈ insertInto name rewrite entries) :
    entry = (name, rewrite) ∨ entry ∈ entries := by
  induction entries with
  | nil => exact Or.inl (List.mem_singleton.mp h)
  | cons first entries ih =>
    rw [insertInto] at h
    split at h
    · exact List.mem_cons.mp h
    · split at h
      · exact (List.mem_cons.mp h).imp_right (List.mem_cons_of_mem _)
      · rcases List.mem_cons.mp h with rfl | hmore
        · exact Or.inr List.mem_cons_self
        · exact (ih hmore).imp_right (List.mem_cons_of_mem _)

/-- All names that the program comes with stand for the same rewrite. -/
theorem eq_rewrite_of_get?_builtin {name : String} {rewrite : Rewrite}
    (h : builtin.get? name = some rewrite) : rewrite = Grep.rewrite := by
  have hall : ∀ entry ∈ builtin.entries, entry.2 = Grep.rewrite := by
    intro entry hentry
    rcases mem_insertInto hentry with rfl | hentry
    · rfl
    rcases mem_insertInto hentry with rfl | hentry
    · rfl
    rcases mem_insertInto hentry with rfl | hentry
    · rfl
    · cases hentry
  exact hall _ (mem_of_get? h)

end GnuLint.Registry
