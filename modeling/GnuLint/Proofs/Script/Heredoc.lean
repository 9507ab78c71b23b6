import GnuLint.Proofs.Text.Blank
import GnuLint.Script.Heredoc
import Mathlib.Data.List.Infix

/-!
# Which here-documents a line opens

Openers are looked for from left to right, and each is judged by the pairs of parentheses before it.
On a line whose first two less-than signs in a row come after some text without any, the first
opener is there or nowhere, and what decides is the text before the character that the signs follow
(`GnuLint.Heredoc.delimiter?_of_first`, `GnuLint.Heredoc.delimiter?_of_only`). So the character
right before the signs is never counted, and two things follow.

* In an arithmetic group that is open, signs are a left shift as long as the parentheses inside the
  group nest no deeper than once; what counts in general are pairs
  (`GnuLint.Heredoc.delimiter?_leftShift`). With deeper nesting a shift may be taken for an opener
  (`GnuLint.Heredoc.delimiter?_leftShift_nested`).
* After an arithmetic group that is closed, signs open a here-document if anything stands between
  the group and them (`GnuLint.Heredoc.delimiter?_closedGroup`). If nothing does, the group is taken
  to be open (`GnuLint.Heredoc.delimiter?_closedGroup_adjacent`).
-/

namespace GnuLint.Heredoc

variable {c : Char} {s t u r d rest : Text} {atStart : Bool} {x : Text × Text}

/-! ### Delimiters -/

/-- **An identifier**: a letter or an underscore, and letters, digits and underscores after it. -/
def IsIdentifier (d : Text) : Prop :=
  d.head?.any isIdentStart = true ∧ ∀ c ∈ d, isIdentChar c = true

instance (d : Text) : Decidable (IsIdentifier d) :=
  decidable_of_iff (d.head?.any isIdentStart = true ∧ d.all isIdentChar = true)
    (and_congr_right fun _ => List.all_eq_true)

theorem isIdentChar_of_isIdentStart (h : isIdentStart c = true) : isIdentChar c = true := by
  obtain halpha | hscore := Bool.or_eq_true_iff.mp h
  · rw [isIdentChar, Char.isAlphanum, halpha]
    rfl
  · rw [isIdentChar, hscore, Bool.or_true]

theorem isBlank_eq_false_of_isIdentChar (h : isIdentChar c = true) : Text.isBlank c = false := by
  by_contra hblank
  rw [Bool.not_eq_false] at hblank
  rw [isIdentChar, Char.isAlphanum, Text.isAlpha_eq_false_of_isBlank hblank, Bool.false_or,
    Bool.or_eq_true, beq_iff_eq] at h
  obtain hdigit | rfl := h
  · rw [Text.isBlank_iff] at hblank
    have hrange : 48 ≤ c.toNat ∧ c.toNat ≤ 57 := by
      simpa [Char.isDigit, UInt32.le_iff_toNat_le] using hdigit
    omega
  · exact absurd hblank (by decide)

theorem isIdentifier_of_read? (h : read? s = some (d, rest)) : IsIdentifier d := by
  rw [read?] at h
  split at h
  · rename_i hstart
    obtain ⟨rfl, -⟩ := Prod.mk.inj (Option.some.inj h)
    refine ⟨?_, fun _ hc => List.mem_takeWhile_imp hc⟩
    cases hs : skipQuote (Text.trimStart (skipHyphen s)) with
    | nil =>
      rw [hs] at hstart
      cases hstart
    | cons c t =>
      rw [hs] at hstart
      rwa [List.takeWhile_cons_of_pos (isIdentChar_of_isIdentStart hstart)]
  · cases h

theorem skipQuote_suffix (s : Text) : skipQuote s <:+ s := by
  unfold skipQuote
  split
  · exact List.suffix_cons _ _
  · exact List.suffix_cons _ _
  · exact List.suffix_refl _

theorem skipHyphen_suffix (s : Text) : skipHyphen s <:+ s := by
  unfold skipHyphen
  split
  · exact List.suffix_cons _ _
  · exact List.suffix_refl _

theorem suffix_of_read? (h : read? s = some (d, rest)) : rest <:+ s := by
  rw [read?] at h
  split at h
  · obtain ⟨-, rfl⟩ := Prod.mk.inj (Option.some.inj h)
    have htrim : Text.trimStart (skipHyphen s) <:+ s :=
      (List.dropWhile_suffix _).trans (skipHyphen_suffix s)
    exact (skipQuote_suffix _).trans
      ((List.dropWhile_suffix _).trans ((skipQuote_suffix _).trans htrim))
  · cases h

/-- **An identifier right after the signs is the delimiter**, if nothing goes on with it. -/
theorem read?_append (hd : IsIdentifier d) (hrest : rest.head?.any isIdentChar = false) :
    read? (d ++ rest) = some (d, skipQuote rest) := by
  obtain ⟨hstart, hchars⟩ := hd
  have htake : (d ++ rest).takeWhile isIdentChar = d := by
    rw [List.takeWhile_append_of_pos hchars]
    cases rest with
    | nil => exact List.append_nil d
    | cons c rest =>
      rw [List.takeWhile_cons_of_neg (by simpa using hrest), List.append_nil]
  have hdrop : (d ++ rest).dropWhile isIdentChar = rest := by
    rw [List.dropWhile_append_of_pos hchars]
    cases rest with
    | nil => rfl
    | cons c rest => exact List.dropWhile_cons_of_neg (by simpa using hrest)
  have hskip : skipQuote (Text.trimStart (skipHyphen (d ++ rest))) = d ++ rest := by
    cases d with
    | nil => cases hstart
    | cons c d =>
      have hc : isIdentStart c = true := hstart
      have hhyphen : skipHyphen (c :: d ++ rest) = c :: d ++ rest := by
        unfold skipHyphen
        split
        · rename_i heq
          obtain ⟨rfl, -⟩ := List.cons.inj heq
          cases hc
        · rfl
      have hblank := isBlank_eq_false_of_isIdentChar (isIdentChar_of_isIdentStart hc)
      have htrim : Text.trimStart (c :: d ++ rest) = c :: d ++ rest :=
        List.dropWhile_cons_of_neg (by simp [hblank])
      rw [hhyphen, htrim]
      unfold skipQuote
      split
      · rename_i heq
        obtain ⟨rfl, -⟩ := List.cons.inj heq
        cases hc
      · rename_i heq
        obtain ⟨rfl, -⟩ := List.cons.inj heq
        cases hc
      · rfl
  have hhead : (d ++ rest).head?.any isIdentStart = true := by
    cases d with
    | nil => cases hstart
    | cons c d => exact hstart
  rw [read?, hskip, if_pos hhead, htake, hdrop]

/-! ### Openers -/

/-- **An opener** is made of two signs, which come first or after one other character, and of what
is read after them. -/
theorem opener?_eq_some_iff :
    opener? atStart s = some x ↔ ∃ r, read? r = some x ∧
      (atStart = true ∧ s = '<' :: '<' :: r ∨ ∃ c, c ≠ '<' ∧ s = c :: '<' :: '<' :: r) := by
  unfold opener?
  constructor
  · intro h
    obtain hfirst | ⟨-, hlater⟩ := Option.or_eq_some_iff.mp h
    · split at hfirst
      · rename_i r
        split at hfirst
        · rename_i hstart
          exact ⟨r, hfirst, .inl ⟨hstart, rfl⟩⟩
        · cases hfirst
      · cases hfirst
    · split at hlater
      · rename_i c r
        split at hlater
        · cases hlater
        · rename_i hc
          exact ⟨r, hlater, .inr ⟨c, hc, rfl⟩⟩
      · cases hlater
  · rintro ⟨r, hr, ⟨rfl, rfl⟩ | ⟨c, hc, rfl⟩⟩
    · simp [hr]
    · simp [hc, hr]

/-- At the start of a line or not, an opener is the same unless the signs come first. -/
theorem opener?_of_head? (hs : s.head? ≠ some '<') : opener? atStart s = opener? false s := by
  refine Option.ext fun x => ?_
  rw [opener?_eq_some_iff, opener?_eq_some_iff]
  refine exists_congr fun r => and_congr_right fun _ => or_congr_left ?_
  constructor
  · rintro ⟨-, rfl⟩
    exact absurd rfl hs
  · rintro ⟨⟨⟩, -⟩

theorem opener?_of_signs (hc : c ≠ '<') (r : Text) :
    opener? false (c :: '<' :: '<' :: r) = read? r := by
  refine Option.ext fun x => ?_
  rw [opener?_eq_some_iff]
  constructor
  · rintro ⟨r, hr, ⟨⟨⟩, -⟩ | ⟨_, -, ⟨⟩⟩⟩
    exact hr
  · intro hr
    exact ⟨r, hr, .inr ⟨c, hc, rfl⟩⟩

/-- There is no opener where the second character is no sign. -/
theorem opener?_eq_none_of_head? (hc : c ≠ '<') (hs : s.head? ≠ some '<') :
    opener? atStart (c :: s) = none := by
  rw [Option.eq_none_iff_forall_ne_some]
  intro x hx
  obtain ⟨r, -, ⟨-, heq⟩ | ⟨_, -, heq⟩⟩ := opener?_eq_some_iff.mp hx
  · exact hc (List.cons.inj heq).1
  · obtain ⟨-, rfl⟩ := List.cons.inj heq
    exact hs rfl

/-- There is no opener where a sign comes first, unless a line starts there. -/
theorem opener?_eq_none_of_sign (s : Text) : opener? false ('<' :: s) = none := by
  rw [Option.eq_none_iff_forall_ne_some]
  intro x hx
  obtain ⟨r, -, ⟨⟨⟩, -⟩ | ⟨_, hne, heq⟩⟩ := opener?_eq_some_iff.mp hx
  exact hne (List.cons.inj heq).1.symm

theorem opener?_eq_none_of_not_infix (hs : ¬['<', '<'] <:+: s) : opener? atStart s = none := by
  rw [Option.eq_none_iff_forall_ne_some]
  intro x hx
  obtain ⟨r, -, ⟨-, rfl⟩ | ⟨c, -, rfl⟩⟩ := opener?_eq_some_iff.mp hx
  · exact hs ⟨[], r, rfl⟩
  · exact hs ⟨[c], r, rfl⟩

/-! #### All openers -/

@[simp] theorem Opener.after_nil (o : Opener) : o.after [] = o := rfl

@[simp] theorem Opener.after_after (o : Opener) (s t : Text) :
    (o.after t).after s = o.after (s ++ t) := by
  simp [Opener.after]

@[simp] theorem Opener.delimiter_after (o : Opener) (s : Text) :
    (o.after s).delimiter = o.delimiter := rfl

variable {n : Nat}

theorem openersWithin_of_some (h : opener? atStart s = some (d, rest)) :
    openersWithin (n + 1) atStart s =
      ⟨[], d⟩ :: (openersWithin n false rest).map (·.after (s.take (s.length - rest.length))) := by
  simp only [openersWithin, h]

theorem openersWithin_of_none (h : opener? atStart (c :: s) = none) :
    openersWithin (n + 1) atStart (c :: s) = (openersWithin n false s).map (·.after [c]) := by
  simp only [openersWithin, h]

/-- **The delimiters of openers** are identifiers. -/
theorem isIdentifier_of_mem_openersWithin {o : Opener} (h : o ∈ openersWithin n atStart s) :
    IsIdentifier o.delimiter := by
  induction n generalizing atStart s o with
  | zero => cases h
  | succ n ih =>
    cases hs : opener? atStart s with
    | some x =>
      obtain ⟨d, rest⟩ := x
      rw [openersWithin_of_some hs] at h
      obtain rfl | h := List.mem_cons.mp h
      · obtain ⟨r, hr, -⟩ := opener?_eq_some_iff.mp hs
        exact isIdentifier_of_read? hr
      · obtain ⟨o, ho, rfl⟩ := List.mem_map.mp h
        rw [Opener.delimiter_after]
        exact ih ho
    | none =>
      cases s with
      | nil =>
        simp only [openersWithin, hs] at h
        cases h
      | cons c s =>
        rw [openersWithin_of_none hs] at h
        obtain ⟨o, ho, rfl⟩ := List.mem_map.mp h
        rw [Opener.delimiter_after]
        exact ih ho

/-- A text without two signs in a row has no openers. -/
theorem openersWithin_eq_nil (hs : ¬['<', '<'] <:+: s) : openersWithin n atStart s = [] := by
  induction n generalizing atStart s with
  | zero => rfl
  | succ n ih =>
    have hnone : opener? atStart s = none := opener?_eq_none_of_not_infix hs
    cases s with
    | nil => simp only [openersWithin, hnone]
    | cons c s =>
      rw [openersWithin_of_none hnone,
        ih fun h => hs (h.trans (List.suffix_cons c s).isInfix)]
      rfl

/-- **Text without signs is passed over**, and counts as text before the openers that follow. -/
theorem openersWithin_append (hu : '<' ∉ u) (hs : s.head? ≠ some '<') :
    openersWithin (u.length + n) atStart (u ++ s) = (openersWithin n false s).map (·.after u) := by
  induction u generalizing atStart with
  | nil =>
    have hstart : openersWithin n atStart s = openersWithin n false s := by
      cases n with
      | zero => rfl
      | succ n => simp only [openersWithin, opener?_of_head? hs]
    simp [hstart]
  | cons a u ih =>
    obtain ⟨ha, hu⟩ := not_or.mp (mt List.mem_cons.mpr hu)
    have hmore : (u ++ s).head? ≠ some '<' := by
      cases u with
      | nil => exact hs
      | cons b u => exact fun hb => hu (by rw [Option.some.inj hb]; exact List.mem_cons_self)
    have hnone : opener? atStart (a :: (u ++ s)) = none :=
      opener?_eq_none_of_head? (Ne.symm ha) hmore
    have hlength : (a :: u).length + n = (u.length + n) + 1 := by
      rw [List.length_cons]
      omega
    rw [hlength, List.cons_append, openersWithin_of_none hnone, ih hu, List.map_map]
    exact List.map_congr_left fun o _ => Opener.after_after o [a] u

/-! ### The first opener -/

theorem isIdentifier_of_delimiter? {line : Text} (h : delimiter? line = some d) :
    IsIdentifier d := by
  obtain ⟨o, ho, rfl⟩ := Option.map_eq_some_iff.mp h
  exact isIdentifier_of_mem_openersWithin (List.mem_of_find?_eq_some ho)

theorem openers_append (hu : '<' ∉ u) (hc : c ≠ '<') (r : Text) :
    openers (u ++ c :: '<' :: '<' :: r) =
      (openersWithin (r.length + 4) false (c :: '<' :: '<' :: r)).map (·.after u) := by
  have hlength : (u ++ c :: '<' :: '<' :: r).length + 1 = u.length + (r.length + 4) := by
    simp only [List.length_append, List.length_cons]
    omega
  rw [openers, hlength, openersWithin_append hu (by simpa using hc)]

/-- **The first opener counts** if no arithmetic group is open before it. -/
theorem delimiter?_of_first (hu : '<' ∉ u) (hc : c ≠ '<') (hr : read? r = some (d, rest))
    (hclosed : inArithmetic u = false) : delimiter? (u ++ c :: '<' :: '<' :: r) = some d := by
  have hopener : opener? false (c :: '<' :: '<' :: r) = some (d, rest) := by
    rw [opener?_of_signs hc, hr]
  have hfirst : inArithmetic (Opener.after ⟨[], d⟩ u).before = false := by
    rw [Opener.after, List.append_nil, hclosed]
  rw [delimiter?, openers_append hu hc, openersWithin_of_some hopener, List.map_cons,
    List.find?_cons_of_pos (by rw [hfirst]; rfl)]
  rfl

/-- **If there are no other signs**, the opener counts exactly if no arithmetic group is open before
the character that the signs follow. -/
theorem delimiter?_of_only (hu : '<' ∉ u) (hc : c ≠ '<') (hr : ¬['<', '<'] <:+: r) :
    delimiter? (u ++ c :: '<' :: '<' :: r) =
      if inArithmetic u then none else (read? r).map Prod.fst := by
  cases hread : read? r with
  | some x =>
    obtain ⟨d, rest⟩ := x
    cases hopen : inArithmetic u with
    | false => exact delimiter?_of_first hu hc hread hopen
    | true =>
      have hopener : opener? false (c :: '<' :: '<' :: r) = some (d, rest) := by
        rw [opener?_of_signs hc, hread]
      have hfirst : inArithmetic (Opener.after ⟨[], d⟩ u).before = true := by
        rw [Opener.after, List.append_nil, hopen]
      have hrest : ¬['<', '<'] <:+: rest := fun h => hr (h.trans (suffix_of_read? hread).isInfix)
      rw [delimiter?, openers_append hu hc, openersWithin_of_some hopener,
        openersWithin_eq_nil hrest, List.map_nil, List.map_singleton,
        List.find?_cons_of_neg (by simp [hfirst])]
      rfl
  | none =>
    have hopener : opener? false (c :: '<' :: '<' :: r) = none := by
      rw [opener?_of_signs hc, hread]
    rw [delimiter?, openers_append hu hc, openersWithin_of_none hopener,
      openersWithin_of_none (opener?_eq_none_of_sign _),
      openersWithin_of_none (opener?_eq_none_of_sign _), openersWithin_eq_nil hr]
    simp

/-! ### Pairs of parentheses -/

theorem countPairs_cons_of_ne {a : Char} (h : a ≠ c) (s : Text) :
    countPairs c (a :: s) = countPairs c s := by
  cases s with
  | nil => rfl
  | cons b s => rw [countPairs, if_neg fun hab => h hab.1]

theorem countPairs_pair (c : Char) (s : Text) :
    countPairs c (c :: c :: s) = countPairs c s + 1 := by
  rw [countPairs, if_pos ⟨rfl, rfl⟩]

theorem countPairs_append_of_notMem (hs : c ∉ s) (t : Text) :
    countPairs c (s ++ t) = countPairs c t := by
  induction s with
  | nil => rfl
  | cons a s ih =>
    obtain ⟨ha, hs⟩ := not_or.mp (mt List.mem_cons.mpr hs)
    rw [List.cons_append, countPairs_cons_of_ne (Ne.symm ha), ih hs]

theorem countPairs_of_notMem (hs : c ∉ s) : countPairs c s = 0 := by
  have h := countPairs_append_of_notMem hs []
  rwa [List.append_nil] at h

theorem countPairs_of_not_infix (hs : ¬[c, c] <:+: s) : countPairs c s = 0 := by
  fun_induction countPairs c s with
  | case1 a b s hpair =>
    obtain ⟨rfl, rfl⟩ := hpair
    exact absurd ⟨[], s, rfl⟩ hs
  | case2 a b s _ ih => exact ih fun h => hs (h.trans (List.suffix_cons a _).isInfix)
  | case3 => rfl

theorem infix_of_append (hs : c ∉ s) (h : [c, c] <:+: s ++ t) : [c, c] <:+: t := by
  induction s with
  | nil => exact h
  | cons a s ih =>
    obtain ⟨ha, hs⟩ := not_or.mp (mt List.mem_cons.mpr hs)
    obtain hprefix | hinfix := List.infix_cons_iff.mp h
    · exact absurd (List.cons_prefix_cons.mp hprefix).1 ha
    · exact ih hs hinfix

/-! #### Arithmetic groups -/

variable {before inner gap after : Text}

/-- A group whose beginning is the only thing before a text is open after the text exactly if the
text has no more pairs of closing parentheses than of opening ones. -/
theorem inArithmetic_append (hbefore : ∀ c ∈ before, c ∉ "()<".toList) (s : Text) :
    inArithmetic (before ++ '(' :: '(' :: s) = decide (countPairs ')' s ≤ countPairs '(' s) := by
  have hopening : '(' ∉ before := fun h => hbefore _ h (by decide)
  have hclosing : ')' ∉ before := fun h => hbefore _ h (by decide)
  rw [inArithmetic, countPairs_append_of_notMem hclosing, countPairs_append_of_notMem hopening,
    countPairs_pair, countPairs_cons_of_ne (by decide), countPairs_cons_of_ne (by decide)]
  exact decide_eq_decide.mpr Nat.lt_succ_iff

/-- **The parentheses of a text nest no deeper than once**: along the text, one that has been opened
is closed before the next one is opened, and none is closed that has not been opened. -/
def NestsOnce (s : Text) : Prop :=
  ∀ p, p <+: s → p.count ')' ≤ p.count '(' ∧ p.count '(' ≤ p.count ')' + 1

/-- Where parentheses nest no deeper than once, no two of them are closed in a row. -/
theorem NestsOnce.not_infix (h : NestsOnce s) : ¬[')', ')'] <:+: s := by
  rintro ⟨p, q, rfl⟩
  have hbefore := (h p ⟨[')', ')'] ++ q, (List.append_assoc _ _ _).symm⟩).2
  have hafter := (h (p ++ [')', ')']) ⟨q, rfl⟩).1
  have hclosing : [')', ')'].count ')' = 2 := by decide
  have hopening : [')', ')'].count '(' = 0 := by decide
  rw [List.count_append, List.count_append, hclosing, hopening] at hafter
  omega

/-- **A left shift in an arithmetic group** that has been opened and not closed again. If something
stands between the beginning of the group and the shift, the last character of which does not count,
and there are no more pairs of closing parentheses in it than of opening ones, the shift opens no
here-document; otherwise it opens one if a delimiter follows. So it opens none if the parentheses in
the group nest no deeper than once. -/
theorem delimiter?_leftShift (hbefore : ∀ c ∈ before, c ∉ "()<".toList) (hinner : '<' ∉ inner)
    (hafter : ¬"<<".toList <:+: after) :
    (delimiter? (before ++ "((".toList ++ inner ++ "<<".toList ++ after) =
      if inner ≠ [] ∧ countPairs ')' inner.dropLast ≤ countPairs '(' inner.dropLast then none
      else (read? after).map Prod.fst) ∧
    (inner ≠ [] → NestsOnce inner →
      delimiter? (before ++ "((".toList ++ inner ++ "<<".toList ++ after) = none) := by
  have hsign : '<' ∉ before := fun h => hbefore _ h (by decide)
  have hall : delimiter? (before ++ "((".toList ++ inner ++ "<<".toList ++ after) =
      if inner ≠ [] ∧ countPairs ')' inner.dropLast ≤ countPairs '(' inner.dropLast then none
      else (read? after).map Prod.fst := by
    obtain rfl | ⟨s, c, rfl⟩ := inner.eq_nil_or_concat'
    · -- the signs follow the second parenthesis, so only the first one is counted
      have hline : before ++ "((".toList ++ [] ++ "<<".toList ++ after =
          (before ++ ['(']) ++ '(' :: '<' :: '<' :: after := by simp
      have hopening : '(' ∉ before := fun h => hbefore _ h (by decide)
      have hclosed : inArithmetic (before ++ ['(']) = false := by
        rw [inArithmetic, countPairs_append_of_notMem hopening]
        exact decide_eq_false (Nat.not_lt_zero _)
      rw [hline, delimiter?_of_only (by simpa using hsign) (by decide) hafter, hclosed]
      rfl
    · have hline : before ++ "((".toList ++ (s ++ [c]) ++ "<<".toList ++ after =
          (before ++ '(' :: '(' :: s) ++ c :: '<' :: '<' :: after := by simp
      have hs : '<' ∉ s := fun h => hinner (List.mem_append_left _ h)
      have hc : c ≠ '<' := fun h => hinner (h ▸ List.mem_append_right _ List.mem_cons_self)
      rw [hline, delimiter?_of_only (by simpa [hsign] using hs) hc hafter,
        inArithmetic_append hbefore, List.dropLast_concat]
      simp
  refine ⟨hall, fun hne hnests => ?_⟩
  have hnone : countPairs ')' inner.dropLast = 0 :=
    countPairs_of_not_infix fun h => hnests.not_infix (h.trans (List.dropLast_prefix _).isInfix)
  rw [hall, if_pos ⟨hne, hnone ▸ Nat.zero_le _⟩]

/-- A shift of a sum in parentheses. -/
theorem delimiter?_leftShift_sum :
    (∀ c ∈ "x=$".toList, c ∉ "()<".toList) ∧ '<' ∉ " (a + 1) ".toList ∧
      ¬"<<".toList <:+: " n ))".toList ∧ NestsOnce " (a + 1) ".toList ∧
      delimiter? ("x=$".toList ++ "((".toList ++ " (a + 1) ".toList ++ "<<".toList ++
        " n ))".toList) = none := by
  have hbefore : ∀ c ∈ "x=$".toList, c ∉ "()<".toList := by simp
  have hinner : '<' ∉ " (a + 1) ".toList := by decide
  have hafter : ¬"<<".toList <:+: " n ))".toList := by decide
  have hnests : NestsOnce " (a + 1) ".toList := by
    have hall : ∀ p ∈ " (a + 1) ".toList.inits,
        p.count ')' ≤ p.count '(' ∧ p.count '(' ≤ p.count ')' + 1 := by decide
    exact fun p hp => hall p ((List.mem_inits p _).mpr hp)
  exact ⟨hbefore, hinner, hafter, hnests,
    (delimiter?_leftShift hbefore hinner hafter).2 (by decide) hnests⟩

/-- **Parentheses in parentheses** of a group that is still open: two of them are closed in a row
before the shift, and the shift is taken for an opener. -/
theorem delimiter?_leftShift_nested :
    (∀ c ∈ "echo $".toList, c ∉ "()'\"<".toList) ∧
      (∀ c ∈ " (a * (b + 1)) ".toList, c ∉ "'\"<".toList) ∧
      (∀ p, p <+: " (a * (b + 1)) ".toList → p.count ')' ≤ p.count '(') ∧
      ¬"<<".toList <:+: " n ))".toList ∧
      delimiter? ("echo $".toList ++ "((".toList ++ " (a * (b + 1)) ".toList ++ "<<".toList ++
        " n ))".toList) = some "n".toList := by
  have hopen : ∀ p ∈ " (a * (b + 1)) ".toList.inits, p.count ')' ≤ p.count '(' := by decide
  refine ⟨by simp, by simp, fun p hp => hopen p ((List.mem_inits p _).mpr hp), by decide, ?_⟩
  decide +kernel

/-! #### After an arithmetic group -/

/-- **An opener after an arithmetic group** that has been closed is found if anything stands between
the group and the signs. If nothing does, the second of the closing parentheses is the character
that the signs follow, the group is taken to be open, and the opener is passed over. -/
theorem delimiter?_closedGroup (hbefore : ∀ c ∈ before, c ∉ "()<".toList)
    (hinner : ∀ c ∈ inner, c ∉ "()<".toList) (hgap : Text.isAllBlank gap = true)
    (hd : IsIdentifier d) (hafter : after.head?.any isIdentChar = false) :
    (gap ≠ [] →
      delimiter? (before ++ "((".toList ++ inner ++ "))".toList ++ gap ++ "<<".toList ++ d ++
        after) = some d) ∧
    (gap = [] → ¬"<<".toList <:+: after →
      delimiter? (before ++ "((".toList ++ inner ++ "))".toList ++ gap ++ "<<".toList ++ d ++
        after) = none) := by
  have hsign : '<' ∉ before := fun h => hbefore _ h (by decide)
  have hsign' : '<' ∉ inner := fun h => hinner _ h (by decide)
  have hopening : '(' ∉ inner := fun h => hinner _ h (by decide)
  have hclosing : ')' ∉ inner := fun h => hinner _ h (by decide)
  have hblank : ∀ c ∈ gap, Text.isBlank c = true := List.all_eq_true.mp hgap
  constructor
  · intro hne
    obtain rfl | ⟨s, c, rfl⟩ := gap.eq_nil_or_concat'
    · exact absurd rfl hne
    have hline : before ++ "((".toList ++ inner ++ "))".toList ++ (s ++ [c]) ++ "<<".toList ++ d ++
        after = (before ++ '(' :: '(' :: (inner ++ ')' :: ')' :: s)) ++ c :: '<' :: '<' ::
          (d ++ after) := by simp
    have hs : ∀ a, Text.isBlank a = false → a ∉ s := fun a ha h => by
      rw [hblank a (List.mem_append_left _ h)] at ha
      cases ha
    have hc : c ≠ '<' := by
      rintro rfl
      exact absurd (hblank '<' (by simp)) (by decide)
    have hnone : '(' ∉ inner ++ ')' :: ')' :: s := by
      simp [hopening, hs '(' (by decide)]
    have hclosed : inArithmetic (before ++ '(' :: '(' :: (inner ++ ')' :: ')' :: s)) = false := by
      rw [inArithmetic_append hbefore, countPairs_append_of_notMem hclosing, countPairs_pair,
        countPairs_of_notMem hnone]
      exact decide_eq_false (Nat.not_succ_le_zero _)
    have hsigns : '<' ∉ before ++ '(' :: '(' :: (inner ++ ')' :: ')' :: s) := by
      simp [hsign, hsign', hs '<' (by decide)]
    rw [hline]
    exact delimiter?_of_first hsigns hc (read?_append hd hafter) hclosed
  · rintro rfl hmore
    have hline : before ++ "((".toList ++ inner ++ "))".toList ++ [] ++ "<<".toList ++ d ++
        after = (before ++ '(' :: '(' :: (inner ++ [')'])) ++ ')' :: '<' :: '<' ::
          (d ++ after) := by simp
    have hopen : inArithmetic (before ++ '(' :: '(' :: (inner ++ [')'])) = true := by
      rw [inArithmetic_append hbefore, countPairs_append_of_notMem hclosing]
      exact decide_eq_true (Nat.zero_le _)
    have hsigns : '<' ∉ before ++ '(' :: '(' :: (inner ++ [')']) := by
      simp [hsign, hsign']
    have hd' : '<' ∉ d := fun h => absurd (hd.2 _ h) (by decide)
    rw [hline, delimiter?_of_only hsigns (by decide) (mt (infix_of_append hd') hmore), hopen]
    rfl

/-- A document after a sum. -/
theorem delimiter?_closedGroup_spaced :
    (∀ c ∈ "cat $".toList, c ∉ "()<".toList) ∧ (∀ c ∈ "n + 1".toList, c ∉ "()<".toList) ∧
      Text.isAllBlank " ".toList = true ∧ IsIdentifier "EOF".toList ∧
      " > out".toList.head?.any isIdentChar = false ∧
      delimiter? ("cat $".toList ++ "((".toList ++ "n + 1".toList ++ "))".toList ++ " ".toList ++
        "<<".toList ++ "EOF".toList ++ " > out".toList) = some "EOF".toList := by
  have hbefore : ∀ c ∈ "cat $".toList, c ∉ "()<".toList := by simp
  have hinner : ∀ c ∈ "n + 1".toList, c ∉ "()<".toList := by simp
  have hgap : Text.isAllBlank " ".toList = true := by decide
  have hd : IsIdentifier "EOF".toList := by decide
  have hafter : " > out".toList.head?.any isIdentChar = false := by decide
  exact ⟨hbefore, hinner, hgap, hd, hafter,
    (delimiter?_closedGroup hbefore hinner hgap hd hafter).1 (by decide)⟩

/-- **A document right after a sum**: with nothing between the group and the signs, it is not
found. -/
theorem delimiter?_closedGroup_adjacent :
    (∀ c ∈ "cat $".toList ++ "n + 1".toList, c ∉ "()'\"<".toList) ∧ IsIdentifier "EOF".toList ∧
      delimiter? ("cat $".toList ++ "((".toList ++ "n + 1".toList ++ "))".toList ++ [] ++
        "<<".toList ++ "EOF".toList ++ []) = none := by
  refine ⟨by simp, by decide, ?_⟩
  decide +kernel

end GnuLint.Heredoc
