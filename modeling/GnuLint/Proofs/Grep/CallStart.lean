import GnuLint.Proofs.Grep.Invocation
import GnuLint.Proofs.Pattern.Language
import GnuLint.Proofs.Text.Blank

/-!
# The beginning of a call

Calls of grep with a Perl pattern are found by an expression that stops at the blank after the
flags (`GnuLint.Grep.IsCallStart`); whether a pattern in quotes comes next, it does not ask. The
rewrite does, and goes on to the first call for which this is so. That is the call that was found
exactly if its pattern is quoted, and exactly then what was found does not stay as it is
(`GnuLint.Grep.IsCallStart.fixesFound`).

What is found is known from the expression, so the file begins with the blanks and the letters that
a pattern knows. A later call may begin before what was found ends, as in `grep -Pgrep -P`, but its
flags do not: they come after a dash, and what was found has only one.
-/

namespace GnuLint

/-! ### Blanks and letters -/

namespace Unicode.RangeTable

/-- A number that is found in a table lies in one of its ranges. -/
theorem exists_range_of_memBetween {t : RangeTable} {n steps low high : Nat}
    (h : t.memBetween n steps low high = true) :
    ∃ r ∈ t.ranges.toList, r.1 ≤ n ∧ n ≤ r.2 := by
  induction steps generalizing low high with
  | zero => cases h
  | succ steps ih =>
    rw [memBetween] at h
    split at h
    · dsimp only at h
      split at h
      · cases h
      · rename_i first last hget
        split at h
        · exact ih h
        · split at h
          · exact ih h
          · exact ⟨(first, last), Array.mem_toList_iff.mpr (Array.mem_of_getElem? hget), by omega,
              by omega⟩
    · cases h

end Unicode.RangeTable

namespace Text

/-- What a pattern takes for a blank is a blank. -/
theorem isBlank_of_mem_blanks {c : Char} (h : Property.blanks.mem c = true) :
    isBlank c = true := by
  obtain ⟨r, hr, hfirst, hlast⟩ := Unicode.RangeTable.exists_range_of_memBetween h
  have hranges : Unicode.whiteSpace.ranges.toList =
      [(9, 13), (32, 32), (133, 133), (160, 160), (5760, 5760), (8192, 8202), (8232, 8233),
        (8239, 8239), (8287, 8287), (12288, 12288)] := by
    decide +kernel
  rw [hranges] at hr
  rw [isBlank_iff]
  simp only [List.mem_cons, List.not_mem_nil, or_false] at hr
  rcases hr with rfl | rfl | rfl | rfl | rfl | rfl | rfl | rfl | rfl | rfl <;> omega

end Text

/-- The letters of a cluster of flags. -/
def CharSet.asciiLetters : CharSet := ofRanges [('a', 'z'), ('A', 'Z')]

theorem CharSet.isAlpha_of_mem_asciiLetters {c : Char} (h : asciiLetters.mem c = true) :
    c.isAlpha = true := by
  simp only [asciiLetters, ofRanges, unionAll, List.map_cons, List.map_nil, List.foldr_cons,
    List.foldr_nil, mem, Bool.or_eq_true, Bool.and_eq_true, decide_eq_true_eq,
    Bool.false_eq_true, or_false, Char.le_def, UInt32.le_iff_toNat_le] at h
  exact Text.isAlpha_iff.mpr h.symm

/-! ### What the expression finds -/

namespace Grep

/-- The expression that a rule for calls of grep looks for: the word, blanks, a cluster of flags,
and a blank. -/
def reportedCall (flags : Regex) : Regex :=
  .seqAll [.look (.word .boundary true), .set (.single 'g'), .set (.single 'r'),
    .set (.single 'e'), .set (.single 'p'), .repetition 1 none true (.set Property.blanks),
    .set (.single '-'), flags, .set Property.blanks]

/-- The cluster of one flag. -/
def singleFlag : Regex := .set (.single 'P')

/-- The clusters of more than one flag. -/
def severalFlags : Regex :=
  .alt
    (.seqAll [.repetition 1 none true (.set .asciiLetters), .set (.single 'P'),
      .repetition 0 none true (.set .asciiLetters)])
    (.seqAll [.set (.single 'P'), .repetition 1 none true (.set .asciiLetters)])

/-- **A text is the beginning of a call** with a Perl pattern: it goes up to the first blank
after the flags. -/
structure IsCallStart (s blanks flags : Text) (gap : Char) : Prop where
  spelling_eq : s = "grep".toList ++ blanks ++ '-' :: (flags ++ [gap])
  blanks_ne_nil : blanks ≠ []
  isBlank_blanks : ∀ c ∈ blanks, Text.isBlank c = true
  isAlpha_flags : ∀ c ∈ flags, c.isAlpha = true
  mem_flags : 'P' ∈ flags
  isBlank_gap : Text.isBlank gap = true

section Matches

variable {before : Option Char} {s after : Text} {chars : CharSet}

theorem eq_of_matches_single {c : Char} (h : (Regex.set (.single c)).Matches before s after) :
    s = [c] := by
  obtain ⟨d, rfl, hd⟩ := h
  rw [CharSet.mem_single, decide_eq_true_eq] at hd
  rw [hd]

/-- A repeated set matches characters of the set. -/
theorem forall_mem_of_matches_repetition {least : Nat} {most : Option Nat} {greedy : Bool}
    (h : (Regex.repetition least most greedy (.set chars)).Matches before s after) :
    least ≤ s.length ∧ ∀ c ∈ s, chars.mem c = true := by
  obtain ⟨n, hleast, -, hturns⟩ := h
  have hall : s.length = n ∧ ∀ c ∈ s, chars.mem c = true := by
    clear hleast
    induction n generalizing before s with
    | zero =>
      obtain rfl : s = [] := hturns
      exact ⟨rfl, by simp⟩
    | succ n ih =>
      obtain ⟨t, u, rfl, ⟨c, rfl, hc⟩, hmore⟩ := hturns
      obtain ⟨hlength, hu⟩ := ih hmore
      have hmany : ([c] ++ u).length = n + 1 := by
        rw [List.length_append, hlength, Nat.add_comm]
        rfl
      exact ⟨hmany, List.forall_mem_cons.mpr ⟨hc, hu⟩⟩
  exact ⟨hall.1 ▸ hleast, hall.2⟩

/-- What a cluster of flags matches: letters, with a `P` among them. -/
theorem flags_of_matches (h : singleFlag.Matches before s after ∨
    severalFlags.Matches before s after) : (∀ c ∈ s, c.isAlpha = true) ∧ 'P' ∈ s := by
  have hletters {least : Nat} {before : Option Char} {s after : Text}
      (h : (Regex.repetition least none true (.set .asciiLetters)).Matches before s after) :
      ∀ c ∈ s, c.isAlpha = true := fun c hc =>
    CharSet.isAlpha_of_mem_asciiLetters ((forall_mem_of_matches_repetition h).2 c hc)
  have hP : ∀ c ∈ ['P'], c.isAlpha = true := List.forall_mem_singleton.mpr (by decide)
  rcases h with h | ⟨t, u, rfl, ht, v, w, rfl, hv, hw⟩ | ⟨t, u, rfl, ht, hu⟩
  · rw [eq_of_matches_single h]
    exact ⟨hP, List.mem_singleton_self _⟩
  · obtain rfl := eq_of_matches_single hv
    exact ⟨List.forall_mem_append.mpr ⟨hletters ht, List.forall_mem_append.mpr ⟨hP, hletters hw⟩⟩,
      List.mem_append_right t (List.mem_append_left w (List.mem_singleton_self _))⟩
  · obtain rfl := eq_of_matches_single ht
    exact ⟨List.forall_mem_append.mpr ⟨hP, hletters hu⟩,
      List.mem_append_left u (List.mem_singleton_self _)⟩

/-- **What the rules find is the beginning of a call.** -/
theorem exists_isCallStart {cluster : Regex}
    (hcluster : cluster = singleFlag ∨ cluster = severalFlags)
    (h : (reportedCall cluster).Matches before s after) :
    ∃ blanks flags gap, IsCallStart s blanks flags gap := by
  obtain ⟨-, s, rfl, ⟨rfl, -⟩, c₁, s, rfl, h₁, c₂, s, rfl, h₂, c₃, s, rfl, h₃, c₄, s, rfl, h₄,
    blanks, s, rfl, hblanks, c₅, s, rfl, h₅, flags, c₆, rfl, hflags, gap, rfl, hgap⟩ := h
  obtain rfl := eq_of_matches_single h₁
  obtain rfl := eq_of_matches_single h₂
  obtain rfl := eq_of_matches_single h₃
  obtain rfl := eq_of_matches_single h₄
  obtain rfl := eq_of_matches_single h₅
  obtain ⟨hpos, hall⟩ := forall_mem_of_matches_repetition hblanks
  obtain ⟨halpha, hP⟩ := flags_of_matches
    (hcluster.imp (fun heq => heq ▸ hflags) fun heq => heq ▸ hflags)
  refine ⟨blanks, flags, gap, rfl, List.length_pos_iff.mp hpos,
    fun c hc => Text.isBlank_of_mem_blanks (hall c hc), halpha, hP,
    Text.isBlank_of_mem_blanks hgap⟩

end Matches

/-! ### What the rewrite reads there -/

variable {s blanks flags rest : Text} {gap : Char}

/-- Flags are cut if there is a `P` among them. -/
theorem isSome_splitFlags (h : 'P' ∈ flags) : (splitFlags flags).isSome = true := by
  induction flags with
  | nil => cases h
  | cons c flags ih =>
    rw [splitFlags]
    rcases hmore : splitFlags flags with _ | ⟨before, after⟩
    · rcases List.mem_cons.mp h with rfl | hlater
      · rfl
      · have hsome := ih hlater
        rw [hmore] at hsome
        cases hsome
    · rfl

/-- The characters of a word, if the next one is not of the same kind. -/
theorem takeWhile_append_cons {p : Char → Bool} {c : Char} {word : Text}
    (hword : ∀ d ∈ word, p d = true) (hc : p c = false) (rest : Text) :
    (word ++ c :: rest).takeWhile p = word ∧ (word ++ c :: rest).dropWhile p = c :: rest := by
  rw [List.takeWhile_append_of_pos hword, List.dropWhile_append_of_pos hword,
    List.takeWhile_cons_of_neg (by simp [hc]), List.dropWhile_cons_of_neg (by simp [hc]),
    List.append_nil]
  exact ⟨rfl, rfl⟩

theorem isBlank_of_invocation? {call : Invocation} {after : Text}
    (h : invocation? s = some (call, after)) : ∀ c ∈ call.blanks, Text.isBlank c = true := by
  obtain ⟨t, u, -, hblanks, -⟩ := parts_of_invocation? h
  intro c hc
  exact List.mem_takeWhile_imp (hblanks ▸ hc)

/-- **The beginning of a call is read as a call** if a quoted pattern comes next. -/
theorem IsCallStart.invocation?_eq (h : IsCallStart s blanks flags gap) (rest : Text) :
    ∃ flagsBefore flagsAfter, flags = flagsBefore ++ 'P' :: flagsAfter ∧
      invocation? (s ++ rest) =
        (quotedPattern? (rest.dropWhile Text.isBlank)).map fun (quoted, after) =>
          (⟨blanks, flagsBefore, flagsAfter, gap :: rest.takeWhile Text.isBlank, quoted⟩,
            after) := by
  obtain ⟨⟨flagsBefore, flagsAfter⟩, hflags⟩ :=
    Option.isSome_iff_exists.mp (isSome_splitFlags h.mem_flags)
  refine ⟨flagsBefore, flagsAfter, append_of_splitFlags hflags, ?_⟩
  have hdash : Text.isBlank '-' = false := by decide
  have htext : s ++ rest = "grep".toList ++ (blanks ++ '-' :: (flags ++ gap :: rest)) := by
    rw [h.spelling_eq]
    simp only [List.append_assoc, List.cons_append, List.nil_append]
  obtain ⟨hblanks, hmore⟩ := takeWhile_append_cons h.isBlank_blanks hdash (flags ++ gap :: rest)
  obtain ⟨hletters, hgap⟩ := takeWhile_append_cons h.isAlpha_flags
    (Text.isAlpha_eq_false_of_isBlank h.isBlank_gap) rest
  rw [invocation?, htext, Text.stripStart?_eq_some_iff.mpr rfl]
  simp only [Option.bind_eq_bind, Option.bind_some, hblanks, hmore, hletters, hgap, hflags,
    List.takeWhile_cons_of_pos h.isBlank_gap, List.dropWhile_cons_of_pos h.isBlank_gap]
  cases quotedPattern? (rest.dropWhile Text.isBlank) with
  | none => rfl
  | some found => simp [h.blanks_ne_nil]

/-! ### What the rewrite leaves there -/

variable {before after : Text} {call : Invocation}

theorem find?_of_invocation? (h : invocation? s = some (call, after)) :
    find? s = some ([], call, after) := by
  cases s with
  | nil => cases h
  | cons c s => rw [find?, h]

/-- A text without some character ends before this character does. -/
theorem prefix_of_append_eq {word t u : Text} {c : Char} (h : word ++ rest = t ++ c :: u)
    (hc : c ∉ word) : word <+: t := by
  rcases List.append_eq_append_iff.mp h with ⟨v, ht, -⟩ | ⟨v, hword, hmore⟩
  · exact ⟨v, ht.symm⟩
  · cases v with
    | nil =>
      rw [hword, List.append_nil]
    | cons d v =>
      obtain ⟨rfl, -⟩ := List.cons.inj hmore
      exact absurd (hword ▸ List.mem_append_right t List.mem_cons_self) hc

/-- A text of the word and blanks has the word at its beginning only. -/
theorem eq_nil_of_append_word {blanks' : Text} (hblanks : ∀ c ∈ blanks, Text.isBlank c = true)
    (hblanks' : ∀ c ∈ blanks', Text.isBlank c = true)
    (h : "grep".toList ++ blanks = before ++ "grep".toList ++ blanks') : before = [] := by
  have hvisible {t : Text} (ht : ∀ c ∈ t, Text.isBlank c = true) :
      t.filter (fun c => !Text.isBlank c) = [] :=
    List.filter_eq_nil_iff.mpr fun c hc => by simp [ht c hc]
  -- without the blanks, there is the word on one side and the word after more on the other
  have hfilter := congrArg (List.filter fun c => !Text.isBlank c) h
  simp only [List.filter_append, hvisible hblanks, hvisible hblanks', List.append_nil] at hfilter
  have hnil : before.filter (fun c => !Text.isBlank c) = [] := List.self_eq_append_left.mp hfilter
  cases before with
  | nil => rfl
  | cons c before =>
    obtain ⟨rfl, -⟩ := List.cons.inj h
    cases hnil

/-- **What stands before the flags of a call further to the right** begins with all that was
found here. -/
theorem IsCallStart.prefix_of_later (h : IsCallStart s blanks flags gap) {pattern : Text}
    (hbefore : before ≠ []) (hblanks : ∀ c ∈ call.blanks, Text.isBlank c = true)
    (htext : s ++ rest = before ++ call.spelling 'P' pattern ++ after) :
    s <+: before ++ "grep".toList ++ call.blanks := by
  have hblank : Text.isBlank '-' = false := by decide
  have hletter : Char.isAlpha '-' = false := by decide
  have hword : '-' ∉ "grep".toList ++ blanks := by
    rw [List.mem_append]
    rintro (hmem | hmem)
    · exact absurd hmem (by decide)
    · exact absurd (h.isBlank_blanks '-' hmem) (by simp [hblank])
  have hflags : '-' ∉ flags ++ [gap] := by
    rw [List.mem_append, List.mem_singleton]
    rintro (hmem | heq)
    · exact absurd (h.isAlpha_flags '-' hmem) (by simp [hletter])
    · exact absurd h.isBlank_gap (by simp [← heq, hblank])
  rw [h.spelling_eq, List.append_assoc before, Invocation.spelling_append,
    ← List.append_assoc "grep".toList, ← List.append_assoc before, ← List.append_assoc before,
    List.append_assoc _ _ rest] at htext
  obtain ⟨v, hv⟩ := prefix_of_append_eq htext hword
  rw [← hv, List.append_assoc _ v, List.append_cancel_left_eq] at htext
  cases v with
  | nil =>
    -- the dashes would be one and the same, and so would the calls
    rw [List.append_nil] at hv
    exact absurd (eq_nil_of_append_word h.isBlank_blanks hblanks hv) hbefore
  | cons d v =>
    -- the dash of the later call comes after that of this one, so it comes after the flags
    obtain ⟨rfl, hmore⟩ := List.cons.inj htext
    obtain ⟨w, hw⟩ := prefix_of_append_eq hmore hflags
    rw [h.spelling_eq, ← hv, ← hw]
    exact ⟨w, by simp only [List.append_assoc, List.cons_append]⟩

/-- **The first call is the one that begins here exactly if a quoted pattern comes next.** -/
theorem IsCallStart.eq_nil_iff (h : IsCallStart s blanks flags gap)
    (hfound : find? (s ++ rest) = some (before, call, after)) :
    before = [] ↔ (quotedPattern? (rest.dropWhile Text.isBlank)).isSome = true := by
  obtain ⟨flagsBefore, flagsAfter, -, hread⟩ := h.invocation?_eq rest
  cases hquoted : quotedPattern? (rest.dropWhile Text.isBlank) with
  | none =>
    obtain ⟨t, ht, hcall⟩ := invocation?_of_find? hfound
    refine iff_of_false ?_ (by simp)
    rintro rfl
    rw [hquoted, ht, List.nil_append, hcall] at hread
    cases hread
  | some found =>
    rw [hquoted, Option.map_some] at hread
    have hfirst := hfound.symm.trans (find?_of_invocation? hread)
    exact iff_of_true (Prod.mk.inj (Option.some.inj hfirst)).1 rfl

/-- **The beginning of a call is changed exactly if the call is rewritten.** -/
theorem IsCallStart.prefix_iff (h : IsCallStart s blanks flags gap)
    (hfound : find? (s ++ rest) = some (before, call, after)) (pattern : Text) :
    s <+: before ++ call.spelling 'E' pattern ++ after ↔ before ≠ [] := by
  obtain ⟨t, ht, hcall⟩ := invocation?_of_find? hfound
  constructor
  · rintro hprefix rfl
    obtain ⟨flagsBefore, flagsAfter, rfl, hread⟩ := h.invocation?_eq rest
    rw [ht, List.nil_append, hcall] at hread
    obtain ⟨⟨quoted, after'⟩, -, heq⟩ := Option.map_eq_some_iff.mp hread.symm
    obtain ⟨rfl, -⟩ := Prod.mk.inj heq
    -- up to the flag, the two spellings agree
    rw [h.spelling_eq, List.nil_append, Invocation.spelling_append, List.append_assoc,
      List.prefix_append_right_inj, List.prefix_append_right_inj, List.cons_prefix_cons] at hprefix
    have hflag := hprefix.2
    rw [List.append_assoc, List.prefix_append_right_inj, List.cons_append,
      List.cons_prefix_cons] at hflag
    exact absurd hflag.1 (by decide)
  · intro hbefore
    have hsame : before ++ "grep".toList ++ call.blanks <+:
        before ++ call.spelling 'E' pattern ++ after := by
      rw [List.append_assoc before, List.append_assoc before, Invocation.spelling_append,
        ← List.append_assoc "grep".toList, List.prefix_append_right_inj]
      exact List.prefix_append _ _
    exact (h.prefix_of_later hbefore (isBlank_of_invocation? hcall)
      (append_of_find? hfound)).trans hsame

/-- **What becomes of a text in which a call was found at the beginning**: its first call is
rewritten. That is the one that was found exactly if a quoted pattern comes after what was
found, and exactly if the text no longer begins with what was found. -/
structure FixesFound (matched rest new : Text) : Prop where
  rewrites : ∃ before call after pattern,
    find? (matched ++ rest) = some (before, call, after) ∧
    toExtended call.quoted.pattern = .ok pattern ∧
    new = before ++ call.spelling 'E' pattern ++ after ∧
    (before = [] ↔ (quotedPattern? (rest.dropWhile Text.isBlank)).isSome = true)
  changes_iff : ¬matched <+: new ↔
    (quotedPattern? (rest.dropWhile Text.isBlank)).isSome = true

theorem IsCallStart.fixesFound (h : IsCallStart s blanks flags gap) {start fixed : Text}
    (hrewrite : rewrite (start ++ (s ++ rest)) (Text.byteLength start) = .ok (.rewritten fixed)) :
    ∃ new, fixed = start ++ new ∧ FixesFound s rest new := by
  obtain ⟨start', s', before, call, after, pattern, hcut, hfound, hpattern, rfl⟩ :=
    find?_of_rewrite hrewrite
  rw [cutFrom?_byteLength] at hcut
  obtain ⟨rfl, rfl⟩ := Prod.mk.inj (Option.some.inj hcut)
  refine ⟨_, rfl, ⟨before, call, after, pattern, hfound, hpattern, rfl, h.eq_nil_iff hfound⟩, ?_⟩
  rw [h.prefix_iff hfound, not_not, h.eq_nil_iff hfound]

end Grep

end GnuLint
