import GnuLint.Proofs.Pattern.Language

/-!
# What a match leaves over of a text

A match that begins where some text stands uses the text up from its beginning, and may go on
behind it. What can be left over of the text when the match ends is computed from the expression
(`GnuLint.Regex.leftOver`), with all conditions taken to hold. If nothing comes of it, not even
the empty text, then no match begins where the text stands
(`GnuLint.Regex.not_prefix_of_leftOver`).
-/

namespace GnuLint.Regex

/-! ### Turns of a repetition -/

/-- What is left over after a number of turns, given what one turn leaves over. -/
def afterTurns (f : Text → List Text) : Nat → Text → List Text
  | 0, t => [t]
  | n + 1, t => (f t).flatMap (afterTurns f n)

/-- What is left over after any number of turns. Only a turn that uses up some of the text makes
a difference, so the bound counts characters. -/
def afterAnyTurns (f : Text → List Text) : Nat → Text → List Text
  | 0, t => [t]
  | n + 1, t => t :: ((f t).filter (·.length < t.length)).flatMap (afterAnyTurns f n)

/-- **What a match may leave over of a text**, if it begins where the text stands. Of the empty
text, nothing is left whatever the match is. -/
def leftOver : Regex → Text → List Text
  | empty, t => [t]
  | set _, [] => [[]]
  | set chars, c :: t => if chars.mem c then [t] else []
  | look _, t => [t]
  | seq r r', t => (r.leftOver t).flatMap r'.leftOver
  | alt r r', t => r.leftOver t ++ r'.leftOver t
  | repetition least _ _ r, t =>
    (afterTurns r.leftOver least t).flatMap fun u => afterAnyTurns r.leftOver u.length u
  | group _ r, t => r.leftOver t

/-! ### Matches and what they leave over -/

/-- **A language leaves over** of a text what a function says, whatever it matches where the
text stands. -/
def LeavesOver (M : Language) (f : Text → List Text) : Prop :=
  ∀ before s after t, M before s after → t <+: s ++ after → t.drop s.length ∈ f t

/-- What is left over of a text stands where the rest of the match begins. -/
theorem prefix_drop_length {s t after : Text} (h : t <+: s ++ after) :
    t.drop s.length <+: after := by
  have hdrop := h.drop s.length
  rwa [List.drop_left] at hdrop

namespace LeavesOver

variable {M M' : Language} {f g : Text → List Text}

theorem nothing : LeavesOver .nothing fun t => [t] := by
  rintro before s after t rfl -
  exact List.mem_singleton.mpr rfl

/-- What the first text leaves over is where the second one begins. -/
theorem then' (h : LeavesOver M f) (h' : LeavesOver M' g) :
    LeavesOver (M.then' M') fun t => (f t).flatMap g := by
  rintro before s after t ⟨u, v, rfl, hu, hv⟩ ht
  rw [List.append_assoc] at ht
  refine List.mem_flatMap.mpr ⟨_, h before u (v ++ after) t hu ht, ?_⟩
  rw [List.length_append, ← List.drop_drop]
  exact h' _ v after _ hv (prefix_drop_length ht)

theorem times (h : LeavesOver M f) (n : Nat) : LeavesOver (M.times n) (afterTurns f n) := by
  induction n with
  | zero => exact nothing
  | succ n ih => exact h.then' ih

/-- The induction is on the turns. A turn that uses nothing up makes no difference, and any
other one leaves less over than the bound. -/
theorem anyTimes (h : LeavesOver M f) {n bound : Nat} {before : Option Char} {s after t : Text}
    (hs : M.times n before s after) (ht : t <+: s ++ after) (hbound : t.length ≤ bound) :
    t.drop s.length ∈ afterAnyTurns f bound t := by
  induction n generalizing before s t bound with
  | zero =>
    obtain rfl : s = [] := hs
    cases bound <;> exact List.mem_cons_self
  | succ n ih =>
    obtain ⟨u, v, rfl, hu, hv⟩ := hs
    rw [List.append_assoc] at ht
    have hturn := h before u (v ++ after) t hu ht
    have hrest := prefix_drop_length ht
    rw [List.length_append, ← List.drop_drop]
    by_cases hless : (t.drop u.length).length < t.length
    · cases bound with
      | zero => omega
      | succ bound =>
        have hbound' : (t.drop u.length).length ≤ bound := by omega
        have hmore := ih hv hrest hbound'
        exact List.mem_cons_of_mem _ (List.mem_flatMap.mpr
          ⟨_, List.mem_filter.mpr ⟨hturn, decide_eq_true hless⟩, hmore⟩)
    · have hsame : t.drop u.length = t := by
        rw [List.length_drop] at hless
        rcases Nat.eq_zero_or_pos u.length with hzero | hpos
        · rw [hzero, List.drop_zero]
        · obtain rfl := List.eq_nil_of_length_eq_zero (l := t) (by omega)
          exact List.drop_nil
      rw [hsame] at hrest ⊢
      exact ih hv hrest hbound

end LeavesOver

/-- Some texts are first some and then the others. -/
theorem Language.times_split {M : Language} {m n : Nat} {before : Option Char} {s after : Text}
    (h : M.times (m + n) before s after) : ((M.times m).then' (M.times n)) before s after := by
  induction m generalizing before s after with
  | zero =>
    rw [Nat.zero_add] at h
    exact ⟨[], s, rfl, rfl, h⟩
  | succ m ih =>
    rw [Nat.add_right_comm] at h
    exact then'_assoc.mpr (then'_mono_right h fun _ _ _ => ih)

/-- **A match leaves over what is computed from its expression.** -/
theorem leavesOver_matches (r : Regex) : LeavesOver r.Matches r.leftOver := by
  induction r with
  | empty => exact LeavesOver.nothing
  | set chars =>
    rintro before s after t ⟨c, rfl, hc⟩ ht
    cases t with
    | nil => exact List.mem_singleton.mpr rfl
    | cons d t =>
      obtain ⟨rfl, -⟩ := List.cons_prefix_cons.mp ht
      rw [leftOver, if_pos hc]
      exact List.mem_singleton.mpr rfl
  | look condition =>
    rintro before s after t ⟨rfl, -⟩ -
    exact List.mem_singleton.mpr rfl
  | seq r r' ih ih' => exact ih.then' ih'
  | alt r r' ih ih' =>
    rintro before s after t (hs | hs) ht
    · exact List.mem_append_left _ (ih before s after t hs ht)
    · exact List.mem_append_right _ (ih' before s after t hs ht)
  | repetition least most greedy r ih =>
    rintro before s after t ⟨n, hleast, -, hs⟩ ht
    obtain ⟨k, rfl⟩ := Nat.exists_eq_add_of_le hleast
    -- the turns that have to be taken come first
    have hsplit := Language.times_split hs
    have hmore : LeavesOver (r.Matches.times k) fun u =>
        afterAnyTurns r.leftOver u.length u :=
      fun before s after u hs hu => ih.anyTimes hs hu (Nat.le_refl _)
    exact (ih.times least).then' hmore before s after t hsplit ht
  | group index r ih => exact ih

/-- **Where a text stands of which nothing can be left over, no match begins.** -/
theorem not_prefix_of_leftOver {r : Regex} {t : Text} (h : r.leftOver t = [])
    {before : Option Char} {s after : Text} (hs : r.Matches before s after) :
    ¬t <+: s ++ after := by
  intro ht
  have hmem := leavesOver_matches r before s after t hs ht
  rw [h] at hmem
  cases hmem

end GnuLint.Regex
