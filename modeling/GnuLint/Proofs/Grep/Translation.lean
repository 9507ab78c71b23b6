import GnuLint.Grep.Extended
import GnuLint.Proofs.Except
import GnuLint.Proofs.Grep.Dialect
import Mathlib.Data.List.TakeWhile

/-!
# Translated patterns mean the same

Without bracket expressions, the translation of a Perl pattern spells the very symbols
that the pattern spells (`GnuLint.Grep.symbols?_toExtended`), so that the two stand for
the same expression and match the same texts (`GnuLint.Grep.matches_toExtended`).

The translation works token by token, and a token is a symbol: whatever follows the
counterpart of a token, the extended dialect finds the same symbol there as the Perl
dialect finds in the pattern (`GnuLint.Grep.symbol_of_token`). What is to be seen besides
is that a quantifier that is translated is never lazy or possessive, which the translation
decides one token later than the Perl dialect.
-/

namespace GnuLint.Grep

variable {c : Char} {s rest first : Text}

/-! ### Characters -/

theorem perlSymbol?_cons (s : Text) (h : c ≠ '\\') (h' : c ≠ '[') (h'' : c ≠ '\x7b') :
    perlSymbol? (c :: s) = some ((operator? c).getD (plain c), s) := by
  unfold perlSymbol?
  split <;> simp_all

theorem extendedSymbol?_cons (s : Text) (h : c ≠ '\\') (h' : c ≠ '[') (h'' : c ≠ '\x7b') :
    extendedSymbol? (c :: s) = some ((operator? c).getD (plain c), s) := by
  unfold extendedSymbol?
  split <;> simp_all

theorem eq_of_operator?_eq_opening (h : operator? c = some .opening) : c = '(' := by
  unfold operator? at h
  split at h <;> simp_all

theorem isQuantifier_of_operator? {least : Nat} {most : Option Nat}
    (h : operator? c = some (.quantifier least most)) : (Token.char c).isQuantifier = true := by
  unfold operator? at h
  split at h <;> simp_all [Token.isQuantifier]

/-! ### Escapes -/

theorem perlEscape?_of_not_alphanum (h : c.isAlphanum = false) :
    perlEscape? c = some (plain c) := by
  unfold perlEscape?
  split <;> simp_all [Char.isAlphanum]

/-- A bracket expression spells the characters that are in one of its members, or in none
of them. -/
theorem symbol_of_members (members : List (Char → Bool)) (negated : Bool) {chars : Char → Bool}
    (h : extendedSymbol? s = some (.item fun c => members.any (· c) != negated, rest))
    (hchars : ∀ c, (members.any (· c) != negated) = chars c) :
    extendedSymbol? s = some (.item chars, rest) := by
  rw [h]
  exact congrArg (fun f => some (Symbol.item f, rest)) (funext hchars)

theorem isDigit_eq (c : Char) : (decide ('0' ≤ c) && decide (c ≤ '9')) = c.isDigit := rfl

/-- **An escape and its counterpart** stand for the same characters. -/
theorem symbol_of_escape (h : escapeToExtended c = .ok first) (after : Text) :
    ∃ chars, perlEscape? c = some (.item chars) ∧
      extendedSymbol? (first ++ after) = some (.item chars, after) := by
  unfold escapeToExtended at h
  split at h
  · obtain rfl := Except.ok.inj h
    exact ⟨_, rfl, symbol_of_members [fun x => '0' ≤ x && x ≤ '9'] false rfl fun c => by
      simp [isDigit_eq]⟩
  · obtain rfl := Except.ok.inj h
    exact ⟨_, rfl, symbol_of_members [fun x => '0' ≤ x && x ≤ '9'] true rfl fun c => by
      simp [isDigit_eq]⟩
  · obtain rfl := Except.ok.inj h
    exact ⟨_, rfl, symbol_of_members [Char.isAlphanum, (· == '_')] false rfl fun c => by
      simp [isWord]⟩
  · obtain rfl := Except.ok.inj h
    exact ⟨_, rfl, symbol_of_members [Char.isAlphanum, (· == '_')] true rfl fun c => by
      simp [isWord]⟩
  · obtain rfl := Except.ok.inj h
    exact ⟨_, rfl, symbol_of_members [isSpace] false rfl fun c => by simp⟩
  · obtain rfl := Except.ok.inj h
    exact ⟨_, rfl, symbol_of_members [isSpace] true rfl fun c => by simp⟩
  · split at h
    · cases h
    · split at h
      · cases h
      · split at h
        · cases h
        · rename_i hplain
          obtain rfl := Except.ok.inj h
          rw [Bool.not_eq_true] at hplain
          refine ⟨_, perlEscape?_of_not_alphanum hplain, ?_⟩
          exact if_neg (by simp [hplain])

/-! ### Intervals -/

theorem takeWhile_digits {ds t : Text} (hds : ∀ c ∈ ds, c.isDigit = true) (hc : c.isDigit = false) :
    (ds ++ c :: t).takeWhile Char.isDigit = ds := by
  rw [List.takeWhile_append_of_pos hds, List.takeWhile_cons_of_neg (by simp [hc]), List.append_nil]

theorem dropWhile_digits {ds t : Text} (hds : ∀ c ∈ ds, c.isDigit = true) (hc : c.isDigit = false) :
    (ds ++ c :: t).dropWhile Char.isDigit = c :: t := by
  rw [List.dropWhile_append_of_pos hds, List.dropWhile_cons_of_neg (by simp [hc])]

/-- **The translation finds an interval where the dialects do**, and its bounds are the same
wherever they are copied to. -/
theorem bounds?_of_interval? {text : Text} (h : interval? s = some (text, rest)) :
    ∃ b, bounds? s = some (b, rest) ∧ ∀ after, bounds? (text ++ after) = some (b, after) := by
  have hdigits : ∀ t : Text, ∀ c ∈ t.takeWhile Char.isDigit, c.isDigit = true :=
    fun t c hc => List.mem_takeWhile_imp hc
  simp only [interval?] at h
  split at h
  · cases h
  rename_i hsome
  have hne : s.takeWhile Char.isDigit ≠ [] := by simpa using hsome
  have hleast := hdigits s
  split at h
  · rename_i t ht
    obtain ⟨rfl, rfl⟩ := Prod.mk.inj (Option.some.inj h)
    refine ⟨(value (s.takeWhile Char.isDigit), some (value (s.takeWhile Char.isDigit))),
      by simp only [bounds?, if_neg hne, ht], fun after => ?_⟩
    rw [List.append_assoc, List.singleton_append]
    simp only [bounds?, takeWhile_digits hleast (c := '\x7d') rfl,
      dropWhile_digits hleast (c := '\x7d') rfl, if_neg hne]
  · rename_i t ht
    split at h
    · rename_i u hu
      obtain ⟨rfl, rfl⟩ := Prod.mk.inj (Option.some.inj h)
      refine ⟨_, by simp only [bounds?, if_neg hne, ht, hu]; rfl, fun after => ?_⟩
      have htext :
          s.takeWhile Char.isDigit ++ ',' :: t.takeWhile Char.isDigit ++ ['\x7d'] ++ after =
          s.takeWhile Char.isDigit ++ ',' :: (t.takeWhile Char.isDigit ++ '\x7d' :: after) := by
        simp
      have hmost := hdigits t
      rw [htext]
      simp only [bounds?, takeWhile_digits hleast (c := ',') rfl,
        dropWhile_digits hleast (c := ',') rfl, if_neg hne,
        takeWhile_digits hmost (c := '\x7d') rfl, dropWhile_digits hmost (c := '\x7d') rfl]
    · cases h
  · cases h

theorem bounds?_eq_none (h : interval? s = none) : bounds? s = none := by
  rcases hb : bounds? s with _ | ⟨b, rest⟩
  · rfl
  simp only [bounds?] at hb
  split at hb
  · cases hb
  rename_i hne
  split at hb
  · rename_i t ht
    simp [interval?, hne, ht] at h
  · rename_i t ht
    split at hb
    · rename_i u hu
      simp [interval?, hne, ht, hu] at h
    · cases hb
  · cases hb

/-! ### Tokens -/

variable {t : Token} {afterQuantifier : Bool}

/-- **A character that is copied** is the same symbol in both dialects. -/
theorem symbol_of_char (s after : Text) (h : c ≠ '\\') (h' : c ≠ '[') (h'' : c ≠ '\x7b')
    (hcopied : (Token.char c).toExtended afterQuantifier = .ok first) :
    ∃ x, perlSymbol? (c :: s) = some (x, s) ∧ extendedSymbol? (first ++ after) = some (x, after) ∧
      (x = .opening → c = '(') ∧
      ∀ least most, x = .quantifier least most → (Token.char c).isQuantifier = true := by
  have hfirst : first = [c] := by
    simp only [Token.toExtended] at hcopied
    split at hcopied
    · cases hcopied
    · rw [if_neg (by simpa using h'')] at hcopied
      exact (Except.ok.inj hcopied).symm
  subst hfirst
  refine ⟨_, perlSymbol?_cons s h h' h'', extendedSymbol?_cons after h h' h'', ?_, ?_⟩
  · intro hx
    cases ho : operator? c with
    | none =>
      rw [ho] at hx
      cases hx
    | some x =>
      obtain rfl : x = .opening := by rwa [ho] at hx
      exact eq_of_operator?_eq_opening ho
  · intro least most hx
    cases ho : operator? c with
    | none =>
      rw [ho] at hx
      cases hx
    | some x =>
      obtain rfl : x = .quantifier least most := by rwa [ho] at hx
      exact isQuantifier_of_operator? ho

/-- **A token and its counterpart** are the same symbol, whatever follows the
counterpart. -/
theorem symbol_of_token (hc : c ≠ '[') (ht : token c s = (t, rest))
    (h : t.toExtended afterQuantifier = .ok first) (after : Text) :
    ∃ x, perlSymbol? (c :: s) = some (x, rest) ∧
      extendedSymbol? (first ++ after) = some (x, after) ∧
      (x = .opening → rest.head? ≠ some '?') ∧
      ∀ least most, x = .quantifier least most → t.isQuantifier = true := by
  unfold token at ht
  split at ht
  · split at ht
    · obtain ⟨rfl, rfl⟩ := Prod.mk.inj ht
      cases h
    · obtain ⟨rfl, rfl⟩ := Prod.mk.inj ht
      rename_i e rest
      obtain ⟨chars, hperl, hextended⟩ := symbol_of_escape h after
      refine ⟨.item chars, ?_, hextended, by simp, by simp⟩
      simp only [perlSymbol?, hperl, Option.map_some]
  · split at ht
    · obtain ⟨rfl, rfl⟩ := Prod.mk.inj ht
      cases h
    · rename_i hhead
      obtain ⟨rfl, rfl⟩ := Prod.mk.inj ht
      obtain ⟨x, hperl, hextended, -, hquantifier⟩ :=
        symbol_of_char s after (by decide) (by decide) (by decide) h
      exact ⟨x, hperl, hextended, fun _ => hhead, hquantifier⟩
  · exact absurd rfl hc
  · split at ht
    · rename_i bounds u hinterval
      obtain ⟨rfl, rfl⟩ := Prod.mk.inj ht
      obtain ⟨⟨least, most⟩, hbounds, hafter⟩ := bounds?_of_interval? hinterval
      obtain rfl := Except.ok.inj h
      refine ⟨.quantifier least most, ?_, ?_, by simp, fun _ _ _ => rfl⟩
      · simp only [perlSymbol?, hbounds]
      · simp only [List.cons_append, extendedSymbol?, hafter, Option.map_some]
    · rename_i hinterval
      obtain ⟨rfl, rfl⟩ := Prod.mk.inj ht
      have hfirst : first = ['\\', '\x7b'] := by
        simp only [Token.toExtended] at h
        split at h
        · cases h
        · exact (Except.ok.inj h).symm
      subst hfirst
      refine ⟨plain '\x7b', ?_, rfl, by simp [plain], by simp [plain]⟩
      simp only [perlSymbol?, bounds?_eq_none hinterval]
  · rename_i hbackslash hopening hbracket hbrace
    obtain ⟨rfl, rfl⟩ := Prod.mk.inj ht
    obtain ⟨x, hperl, hextended, hgroup, hquantifier⟩ :=
      symbol_of_char s after hbackslash hbracket hbrace h
    exact ⟨x, hperl, hextended, fun hx => absurd (hgroup hx) hopening, hquantifier⟩

/-! ### Counterparts one after the other -/

/-- **The counterpart of some items** of a bracket expression is that of the first one and that of
the others. -/
theorem bracketToExtended_cons_iff {item : BracketItem} {items : List BracketItem}
    {stop : BracketEnd} {text : Text} :
    bracketToExtended stop (item :: items) = .ok text ↔
      ∃ first more, item.toExtended = .ok first ∧ bracketToExtended stop items = .ok more ∧
        text = first ++ more :=
  bind_bind_eq_ok_iff

/-- **The counterpart of some tokens** is that of the first one and that of the others. -/
theorem tokensToExtended_cons_iff {ts : List Token} {q : Text} :
    tokensToExtended afterQuantifier (t :: ts) = .ok q ↔
      ∃ first more, t.toExtended afterQuantifier = .ok first ∧
        tokensToExtended t.isQuantifier ts = .ok more ∧ q = first ++ more :=
  bind_bind_eq_ok_iff

/-- What comes after a quantifier does not make it lazy or possessive. -/
theorem head?_of_tokensToExtended {n : Nat} {p q : Text} (hn : p.length ≤ n)
    (h : tokensToExtended true (tokensWithin n p) = .ok q) :
    p.head? ≠ some '?' ∧ p.head? ≠ some '+' := by
  cases p with
  | nil => exact ⟨by simp, by simp⟩
  | cons c s =>
    cases n with
    | zero => cases hn
    | succ n =>
      obtain ⟨first, -, hfirst, -⟩ := tokensToExtended_cons_iff.mp h
      constructor
      · rintro hc
        obtain rfl : c = '?' := Option.some.inj hc
        cases hfirst
      · rintro hc
        obtain rfl : c = '+' := Option.some.inj hc
        cases hfirst

/-! ### Patterns -/

theorem perl_next? {x : Symbol} (h : perlSymbol? s = some (x, rest))
    (hmodified : isModified x rest = false) : Dialect.perl.next? s = some (x, rest) :=
  Option.filter_eq_some_iff.mpr ⟨h, by simpa using hmodified⟩

theorem symbols?_tokensToExtended {n : Nat} {p q : Text} (hn : p.length ≤ n) (hp : '[' ∉ p)
    (h : tokensToExtended afterQuantifier (tokensWithin n p) = .ok q) :
    ∃ σ, Dialect.perl.symbols? p = some σ ∧ Dialect.extended.symbols? q = some σ := by
  induction n generalizing p q afterQuantifier with
  | zero =>
    obtain rfl : p = [] := List.length_eq_zero_iff.mp (Nat.le_zero.mp hn)
    obtain rfl := Except.ok.inj h
    exact ⟨[], rfl, rfl⟩
  | succ n ih =>
    cases p with
    | nil =>
      obtain rfl := Except.ok.inj h
      exact ⟨[], rfl, rfl⟩
    | cons c s =>
      rcases ht : token c s with ⟨t, rest⟩
      rw [tokensWithin, ht] at h
      obtain ⟨first, after, hfirst, hafter, rfl⟩ := tokensToExtended_cons_iff.mp h
      have hc : c ≠ '[' := fun he => hp (he ▸ List.mem_cons_self)
      obtain ⟨x, hperl, hextended, hgroup, hquantifier⟩ := symbol_of_token hc ht hfirst after
      obtain ⟨_, _, ⟨⟩, hfollows⟩ := follows_perlSymbol? hperl
      have hrest : rest.length ≤ n := Nat.le_trans hfollows.length_le (Nat.le_of_succ_le_succ hn)
      have hmodified : isModified x rest = false := by
        cases x with
        | opening => simpa [isModified] using hgroup rfl
        | quantifier least most =>
          -- the next token is translated knowing that a quantifier comes before it
          rw [hquantifier least most rfl] at hafter
          simpa [isModified] using head?_of_tokensToExtended hrest hafter
        | item | lineStart | lineEnd | closing | bar => rfl
      obtain ⟨σ, hσ, hσ'⟩ :=
        ih hrest (fun hmem => hp (List.mem_cons_of_mem _ (hfollows.subset hmem))) hafter
      refine ⟨x :: σ, ?_, ?_⟩
      · rw [Dialect.symbols?_of_next? (perl_next? hperl hmodified), hσ]
        rfl
      · rw [Dialect.symbols?_of_next? (d := .extended) hextended, hσ']
        rfl

/-- **The translation of a pattern without brackets spells the same symbols.** -/
theorem symbols?_toExtended {p q : Text} (hp : '[' ∉ p) (h : toExtended p = .ok q) :
    ∃ σ, Dialect.perl.symbols? p = some σ ∧ Dialect.extended.symbols? q = some σ :=
  symbols?_tokensToExtended (Nat.le_refl _) hp h

/-- **The translation of a well-formed pattern without brackets means the same**: both
patterns stand for an expression, and they match the same texts in the same places. -/
theorem matches_toExtended {p q : Text} (hp : '[' ∉ p) (hwell : Dialect.perl.IsWellFormed p)
    (h : toExtended p = .ok q) :
    (∃ r, Dialect.perl.read? p = some r) ∧ (∃ r, Dialect.extended.read? q = some r) ∧
      ∀ before s after,
        Dialect.extended.Matches q before s after ↔ Dialect.perl.Matches p before s after := by
  obtain ⟨σ, hσ, hσ'⟩ := symbols?_toExtended hp h
  obtain ⟨r, hr⟩ : ∃ r, readSymbols? σ = some r := by
    rw [← Option.isSome_iff_exists, isSome_readSymbols?]
    exact hwell σ hσ
  have hperl : Dialect.perl.read? p = some r := by rw [Dialect.read?, hσ, Option.bind_some, hr]
  have hextended : Dialect.extended.read? q = some r := by
    rw [Dialect.read?, hσ', Option.bind_some, hr]
  refine ⟨⟨r, hperl⟩, ⟨r, hextended⟩, fun before s after => ?_⟩
  rw [Dialect.Matches, Dialect.Matches, hperl, hextended]

/-- A group, an escape, a quantifier after a quantifier, and a brace that opens no
interval. -/
theorem matches_toExtended_braces :
    '[' ∉ "^(\\d+|x)*\x7b2\x7d\x7by$".toList ∧
      Dialect.perl.IsWellFormed "^(\\d+|x)*\x7b2\x7d\x7by$".toList ∧
      toExtended "^(\\d+|x)*\x7b2\x7d\x7by$".toList =
        .ok "^([0-9]+|x)*\x7b2\x7d\\\x7by$".toList ∧
      ∀ before s after,
        Dialect.extended.Matches "^([0-9]+|x)*\x7b2\x7d\\\x7by$".toList before s after ↔
          Dialect.perl.Matches "^(\\d+|x)*\x7b2\x7d\x7by$".toList before s after := by
  have hp : '[' ∉ "^(\\d+|x)*\x7b2\x7d\x7by$".toList := by decide
  have hwell : Dialect.perl.IsWellFormed "^(\\d+|x)*\x7b2\x7d\x7by$".toList := by decide +kernel
  have h : toExtended "^(\\d+|x)*\x7b2\x7d\x7by$".toList =
      .ok "^([0-9]+|x)*\x7b2\x7d\\\x7by$".toList := by
    decide +kernel
  exact ⟨hp, hwell, h, (matches_toExtended hp hwell h).2.2⟩

end GnuLint.Grep
