import GnuLint.Pattern.Basic

/-!
# Patterns that are anchored

A program that begins by checking for the start of the text, and then reads a character,
finds nothing in a text that begins with another character
(`GnuLint.Program.head?_of_search`). A thread that is started anywhere else dies at once, and
the one that is started at the beginning dies at the first character; the search goes on
without threads from there to the end.
-/

namespace GnuLint

namespace Program

variable {p : Program} {c : Char}

/-! ### Anchored programs -/

/-- **The character that an anchored program begins with**: the one that it reads after it
has checked for the start of the text. -/
def anchor? (p : Program) : Option Char :=
  match p.instruction? p.start with
  | some (.check .textStart next) =>
    match p.instruction? next with
    | some (.read (.range first last) _) => if first = last then some first else none
    | _ => none
  | _ => none

theorem exists_of_anchor? (h : p.anchor? = some c) :
    ∃ next after, p.instruction? p.start = some (.check .textStart next) ∧
      p.instruction? next = some (.read (.single c) after) := by
  rw [anchor?] at h
  split at h
  · rename_i next hstart
    split at h
    · rename_i first last after hnext
      by_cases hfl : first = last
      · rw [if_pos hfl] at h
        obtain rfl : first = c := Option.some.inj h
        exact ⟨next, after, hstart, by rw [hnext, ← hfl]; rfl⟩
      · simp [hfl] at h
    · cases h
  · cases h

/-! ### Threads that are started -/

/-- No place of a program has been visited at first. -/
theorem visited_emptyFront {place : Nat} (h : p.instruction? place ≠ none) :
    p.emptyFront.visited[place]? = some false := by
  have hplace : place < p.code.size := by
    rcases Nat.lt_or_ge place p.code.size with hlt | hge
    · exact hlt
    · exact absurd (Array.getElem?_eq_none hge) h
  simp [emptyFront, hplace]

/-- A thread that is started inside a text dies at once. -/
theorem threads_add_inside (h : p.anchor? = some c) (b : Char) (after : Option Char)
    (position : Nat) :
    (p.add (some b) after position ⟨p.start, position, []⟩ p.emptyFront).threads = #[] := by
  obtain ⟨next, -, hstart, -⟩ := exists_of_anchor? h
  have hfresh : p.emptyFront.visited[p.start]? = some false := visited_emptyFront (by simp [hstart])
  simp only [add, spread, hfresh, hstart, Look.holds, Option.getD_some, Option.isNone_some,
    Bool.false_eq_true, if_false]
  rfl

/-- A thread that is started at the beginning of a text is about to read the character. -/
theorem exists_read_of_mem_add (h : p.anchor? = some c) (after : Option Char) {t : Thread}
    (ht : t ∈ (p.add none after 0 ⟨p.start, 0, []⟩ p.emptyFront).threads.toList) :
    ∃ next, p.instruction? t.place = some (.read (.single c) next) := by
  obtain ⟨next, goal, hstart, hnext⟩ := exists_of_anchor? h
  have hfresh : p.emptyFront.visited[p.start]? = some false := visited_emptyFront (by simp [hstart])
  rw [add, spread] at ht
  simp only [hfresh, hstart, Look.holds, Option.getD_some, Bool.false_eq_true, if_false,
    Option.isNone_none, if_true] at ht
  cases hsize : p.code.size with
  | zero => simp [hsize, spread, emptyFront] at ht
  | succ n =>
    rw [hsize, spread] at ht
    split at ht
    · simp [emptyFront] at ht
    · simp only [hnext, emptyFront, List.push_toArray, List.nil_append, List.mem_cons,
        List.not_mem_nil, or_false] at ht
      exact ⟨goal, by rw [ht]; exact hnext⟩

/-! ### The search -/

/-- Threads that are about to read another character die. -/
theorem stepThreads_of_ne {d : Char} (hd : d ≠ c) (after : Option Char) (position : Nat)
    {ts : List Thread}
    (hts : ∀ t ∈ ts, ∃ next, p.instruction? t.place = some (.read (.single c) next))
    (front : Front) : p.stepThreads d after position ts front none = (front, none) := by
  induction ts with
  | nil => rfl
  | cons t ts ih =>
    obtain ⟨⟨next, ht⟩, hts⟩ := List.forall_mem_cons.mp hts
    simp only [stepThreads, ht, CharSet.mem_single, hd, decide_false, Bool.false_eq_true, if_false]
    exact ih hts

theorem acceptAtEnd_of_read (position : Nat) {ts : List Thread}
    (hts : ∀ t ∈ ts, ∃ next, p.instruction? t.place = some (.read (.single c) next)) :
    p.acceptAtEnd position ts = none := by
  induction ts with
  | nil => rfl
  | cons t ts ih =>
    obtain ⟨⟨next, ht⟩, hts⟩ := List.forall_mem_cons.mp hts
    simp only [acceptAtEnd, ht]
    exact ih hts

/-- Without threads, nothing is found inside a text. -/
theorem searchFrom_inside (h : p.anchor? = some c) (b : Char) (position : Nat) (s : Text) :
    p.searchFrom (some b) position s p.emptyFront none = none := by
  induction s generalizing b position with
  | nil => simp [searchFrom, threads_add_inside h, acceptAtEnd]
  | cons d s ih =>
    simp only [searchFrom, Option.isNone_none, if_true, threads_add_inside h, stepThreads,
      Option.isSome_none, Bool.and_false, Bool.false_eq_true, if_false]
    exact ih d (position + 1)

/-- **An anchored program finds nothing in a text that begins with another character.** -/
theorem head?_of_search {s : Text} {hit : Hit} (h : p.anchor? = some c)
    (hs : p.search none 0 s = some hit) : s.head? = some c := by
  cases s with
  | nil =>
    have hdead := acceptAtEnd_of_read 0 fun t ht => exists_read_of_mem_add h none (t := t) ht
    simp [search, searchFrom, hdead] at hs
  | cons d s =>
    refine Decidable.byContradiction fun hhead => ?_
    have hd : d ≠ c := fun he => hhead (by rw [he]; rfl)
    -- the thread dies at the first character, and no other one lives
    have hdead := stepThreads_of_ne hd s.head? 0
      (fun t ht => exists_read_of_mem_add h (some d) (t := t) ht) p.emptyFront
    simp only [search, searchFrom, Option.isNone_none, if_true, Option.isSome_none,
      Bool.and_false, Bool.false_eq_true, if_false, hdead, searchFrom_inside h] at hs
    cases hs

end Program

/-! ### Anchored patterns -/

namespace Pattern

/-- **A text that an anchored pattern occurs in begins with its character.** -/
theorem head?_of_isMatch {p : Pattern} {c : Char} {s : Text} (h : p.program.anchor? = some c)
    (hs : p.isMatch s = true) : s.head? = some c := by
  obtain ⟨hit, hhit⟩ := Option.isSome_iff_exists.mp hs
  exact Program.head?_of_search h hhit

end Pattern

end GnuLint
