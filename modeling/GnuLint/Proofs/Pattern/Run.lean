import GnuLint.Pattern.Basic
import Mathlib.Data.List.Infix

/-!
# Runs of a program

A program can be run by hand: from a place, one instruction after the other, reading a text
on the way (`GnuLint.Program.Runs`). A choice may be resolved either way, so there are many
runs; the search follows all of them at once, and which of them it prefers is not told here.

What is told here is that it makes nothing up. Every thread of the search is the end of a
run from the start of the program, over the text between the position where the thread began
and the position where it is (`GnuLint.Program.Thread.Follows`), and so is every match
(`GnuLint.Program.isRun_of_search`). In particular a match ends no earlier than it begins, and
no later than the text.
-/

namespace GnuLint

namespace Text

/-- The character before a position, after some more text has been passed. -/
def lastOr (before : Option Char) (s : Text) : Option Char := s.getLast?.or before

@[simp] theorem lastOr_nil (before : Option Char) : lastOr before [] = before := rfl

@[simp] theorem lastOr_cons (before : Option Char) (c : Char) (s : Text) :
    lastOr before (c :: s) = lastOr (some c) s := by
  rw [lastOr, lastOr, List.getLast?_cons]
  cases s.getLast? <;> rfl

@[simp] theorem lastOr_append (before : Option Char) (s t : Text) :
    lastOr before (s ++ t) = lastOr (lastOr before s) t := by
  rw [lastOr, lastOr, lastOr, List.getLast?_append, Option.or_assoc]

end Text

open Text (lastOr)

namespace Program

variable {p : Program} {before : Option Char} {position : Nat} {s after : Text}

/-! ### Runs -/

/-- **A run of a program**: so many instructions lead from one place to another one, and on
the way a text is read, between the character before it and the text after it. -/
inductive Runs (p : Program) : Nat → Option Char → Nat → Text → Text → Nat → Prop
  /-- Nothing is done. -/
  | refl {before : Option Char} {place : Nat} {after : Text} : Runs p 0 before place [] after place
  /-- A character is read. -/
  | read {n : Nat} {before : Option Char} {place next goal : Nat} {chars : CharSet} {c : Char}
      {s after : Text} : p.instruction? place = some (.read chars next) → chars.mem c = true →
    Runs p n (some c) next s after goal → Runs p (n + 1) before place (c :: s) after goal
  /-- The preferred way is taken. -/
  | first {n : Nat} {before : Option Char} {place first second goal : Nat} {s after : Text} :
    p.instruction? place = some (.fork first second) → Runs p n before first s after goal →
    Runs p (n + 1) before place s after goal
  /-- The other way is taken. -/
  | second {n : Nat} {before : Option Char} {place first second goal : Nat} {s after : Text} :
    p.instruction? place = some (.fork first second) → Runs p n before second s after goal →
    Runs p (n + 1) before place s after goal
  /-- The position is remembered. -/
  | save {n : Nat} {before : Option Char} {place slot next goal : Nat} {s after : Text} :
    p.instruction? place = some (.save slot next) → Runs p n before next s after goal →
    Runs p (n + 1) before place s after goal
  /-- A condition is checked, and holds. -/
  | check {n : Nat} {before : Option Char} {place next goal : Nat} {condition : Look}
      {s after : Text} : p.instruction? place = some (.check condition next) →
    condition.holds before (s ++ after).head? = true → Runs p n before next s after goal →
    Runs p (n + 1) before place s after goal

/-- Two runs, one after the other, are a run. -/
theorem Runs.trans {m n : Nat} {place middle goal : Nat} {t : Text}
    (h : p.Runs m before place s (t ++ after) middle)
    (h' : p.Runs n (lastOr before s) middle t after goal) :
    p.Runs (m + n) before place (s ++ t) after goal := by
  generalize hafter : t ++ after = rest at h
  induction h with
  | refl => simpa using h'
  | read hi hc _ ih =>
    rw [Nat.add_right_comm]
    exact .read hi hc (ih (by simpa using h') hafter)
  | first hi _ ih =>
    rw [Nat.add_right_comm]
    exact .first hi (ih h' hafter)
  | second hi _ ih =>
    rw [Nat.add_right_comm]
    exact .second hi (ih h' hafter)
  | save hi _ ih =>
    rw [Nat.add_right_comm]
    exact .save hi (ih h' hafter)
  | check hi hholds _ ih =>
    rw [Nat.add_right_comm]
    refine .check hi ?_ (ih h' hafter)
    rwa [List.append_assoc, hafter]

/-! ### Fronts -/

/-- The front with a place visited. -/
def Front.visit (front : Front) (place : Nat) : Front :=
  { front with visited := front.visited.setIfInBounds place true }

/-- The front with one more thread, the least preferred one. -/
def Front.push (front : Front) (t : Thread) : Front :=
  { front with threads := front.threads.push t }

/-- Whether a place need not be visited, because it has been or because there is none. -/
def Front.isVisited (front : Front) (place : Nat) : Bool := front.visited[place]?.getD true

@[simp] theorem Front.threads_visit (front : Front) (place : Nat) :
    (front.visit place).threads = front.threads := rfl

@[simp] theorem Front.toList_threads_push (front : Front) (t : Thread) :
    (front.push t).threads.toList = front.threads.toList ++ [t] := Array.toList_push

/-- **A thread waits** where a character is read or the text is accepted. -/
def IsWaiting (p : Program) (place : Nat) : Prop :=
  p.instruction? place = some .accept ∨
    ∃ chars next, p.instruction? place = some (.read chars next)

/-- **How one more thread spreads** through the instructions that read nothing. -/
inductive Spreads (p : Program) (before after : Option Char) (position : Nat) :
    Thread → Front → Front → Prop
  /-- It goes no further. -/
  | idle {t : Thread} {front : Front} : Spreads p before after position t front front
  /-- It comes to a place and goes no further. -/
  | stop {t : Thread} {front : Front} :
    Spreads p before after position t front (front.visit t.place)
  /-- It waits for a character or accepts. -/
  | wait {t : Thread} {front : Front} : p.IsWaiting t.place →
    Spreads p before after position t front ((front.visit t.place).push t)
  /-- It goes both ways, the preferred one first. -/
  | fork {t : Thread} {front middle result : Front} {first second : Nat} :
    p.instruction? t.place = some (.fork first second) →
    Spreads p before after position { t with place := first } (front.visit t.place) middle →
    Spreads p before after position { t with place := second } middle result →
    Spreads p before after position t front result
  /-- It remembers the position. -/
  | save {t : Thread} {front result : Front} {slot next : Nat} :
    p.instruction? t.place = some (.save slot next) →
    Spreads p before after position { t with place := next, saved := (slot, position) :: t.saved }
      (front.visit t.place) result →
    Spreads p before after position t front result
  /-- It checks a condition, and the condition holds. -/
  | check {t : Thread} {front result : Front} {condition : Look} {next : Nat} :
    p.instruction? t.place = some (.check condition next) →
    condition.holds before after = true →
    Spreads p before after position { t with place := next } (front.visit t.place) result →
    Spreads p before after position t front result

/-- Threads wait at all instructions but those that they are passed on by. -/
theorem isWaiting_of_ne {i : Instruction} (hi : p.instruction? place = some i)
    (hfork : ∀ first second, i ≠ .fork first second) (hsave : ∀ slot next, i ≠ .save slot next)
    (hcheck : ∀ condition next, i ≠ .check condition next) : p.IsWaiting place := by
  cases i with
  | accept => exact Or.inl hi
  | read chars next => exact Or.inr ⟨chars, next, hi⟩
  | check condition next => exact absurd rfl (hcheck condition next)
  | save slot next => exact absurd rfl (hsave slot next)
  | fork first second => exact absurd rfl (hfork first second)

theorem spreads_spread (p : Program) (before after : Option Char) (position n : Nat) (t : Thread)
    (front : Front) :
    p.Spreads before after position t front (p.spread before after position n t front) := by
  induction n generalizing t front with
  | zero => exact .idle
  | succ n ih =>
    rw [spread]
    split
    · exact .idle
    split
    · exact .stop
    · rename_i first second hi
      exact .fork hi (ih _ _) (ih _ _)
    · rename_i slot next hi
      exact .save hi (ih _ _)
    · rename_i condition next hi
      split
      · rename_i hholds
        exact .check hi hholds (ih _ _)
      · exact .stop
    · rename_i i hfork hsave hcheck hi
      exact .wait (isWaiting_of_ne hi hfork hsave hcheck)

/-! ### Threads are runs -/

/-- **A thread follows a run**: it began somewhere in the text that has been passed, and
since then it has read the rest of that text. -/
def Thread.Follows (p : Program) (before : Option Char) (position : Nat) (passed s : Text)
    (t : Thread) : Prop :=
  ∃ u w n, passed = u ++ w ∧ t.start = position + u.length ∧
    p.Runs n (lastOr before u) p.start w s t.place

namespace Thread.Follows

variable {passed : Text} {t : Thread}

/-- A thread that has just begun follows the run that does nothing. -/
theorem start (p : Program) (before : Option Char) (position : Nat) (passed s : Text) :
    Thread.Follows p before position passed s ⟨p.start, position + passed.length, []⟩ :=
  ⟨passed, [], 0, (List.append_nil passed).symm, rfl, .refl⟩

/-- An instruction that reads nothing goes on with the run. -/
theorem move {next : Nat} (h : t.Follows p before position passed s)
    (hrun : p.Runs 1 (lastOr before passed) t.place [] s next) (saved : Saved) :
    Thread.Follows p before position passed s ⟨next, t.start, saved⟩ := by
  obtain ⟨u, w, n, rfl, hstart, hruns⟩ := h
  rw [Text.lastOr_append] at hrun
  have hmore := Runs.trans (t := []) hruns hrun
  rw [List.append_nil] at hmore
  exact ⟨u, w, n + 1, rfl, hstart, hmore⟩

/-- So does an instruction that reads a character. -/
theorem read {next : Nat} {chars : CharSet} {c : Char}
    (h : t.Follows p before position passed (c :: s))
    (hi : p.instruction? t.place = some (.read chars next)) (hc : chars.mem c = true) :
    Thread.Follows p before position (passed ++ [c]) s { t with place := next } := by
  obtain ⟨u, w, n, rfl, hstart, hruns⟩ := h
  have hmore := Runs.trans (t := [c]) hruns (.read hi hc .refl)
  exact ⟨u, w ++ [c], n + 1, List.append_assoc u w [c], hstart, hmore⟩

end Thread.Follows

/-- All threads of a front follow runs. -/
def Front.Follows (p : Program) (before : Option Char) (position : Nat) (passed s : Text)
    (front : Front) : Prop :=
  ∀ t ∈ front.threads.toList, t.Follows p before position passed s

theorem Front.Follows.empty (p : Program) (before : Option Char) (position : Nat)
    (passed s : Text) : p.emptyFront.Follows p before position passed s := by
  intro t ht
  cases ht

/-- **Threads that are spread follow runs**, if the thread does. -/
theorem Spreads.follows {passed : Text} {t : Thread} {front result : Front} {at' : Nat}
    (h : p.Spreads (lastOr before passed) s.head? at' t front result)
    (ht : t.Follows p before position passed s)
    (hfront : front.Follows p before position passed s) :
    result.Follows p before position passed s := by
  induction h with
  | idle => exact hfront
  | stop => exact hfront
  | wait =>
    intro t' ht'
    rw [Front.toList_threads_push, Front.threads_visit, List.mem_append, List.mem_singleton] at ht'
    rcases ht' with ht' | rfl
    · exact hfront t' ht'
    · exact ht
  | fork hi _ _ ih ih' =>
    exact ih' (ht.move (.second hi .refl) _) (ih (ht.move (.first hi .refl) _) hfront)
  | save hi _ ih => exact ih (ht.move (.save hi .refl) _) hfront
  | check hi hholds _ ih =>
    exact ih (ht.move (.check hi (by simpa using hholds) .refl) _) hfront

/-- **A match is a run** from the start of the program to where the text is accepted, over
the part of the text that it says. -/
def IsRun (p : Program) (before : Option Char) (position : Nat) (s : Text) (h : Hit) : Prop :=
  ∃ u w after n goal, s = u ++ w ++ after ∧ h.start = position + u.length ∧
    h.stop = position + (u ++ w).length ∧ p.Runs n (lastOr before u) p.start w after goal ∧
    p.instruction? goal = some .accept

theorem Thread.Follows.isRun {passed : Text} {t : Thread}
    (h : t.Follows p before position passed s) (hi : p.instruction? t.place = some .accept) :
    p.IsRun before position (passed ++ s) ⟨t.start, position + passed.length, t.saved⟩ := by
  obtain ⟨u, w, n, rfl, hstart, hruns⟩ := h
  exact ⟨u, w, s, n, t.place, rfl, hstart, rfl, hruns, hi⟩

/-- Reading a character keeps threads that follow runs, and a match that is found is a run. -/
theorem follows_stepThreads {passed : Text} {c : Char} {ts : List Thread} {front : Front}
    {best : Option Hit} (hts : ∀ t ∈ ts, t.Follows p before position passed (c :: s))
    (hfront : front.Follows p before position (passed ++ [c]) s)
    (hbest : ∀ h ∈ best, p.IsRun before position (passed ++ c :: s) h) :
    (p.stepThreads c s.head? (position + passed.length) ts front best).1.Follows p before position
        (passed ++ [c]) s ∧
      ∀ h ∈ (p.stepThreads c s.head? (position + passed.length) ts front best).2,
        p.IsRun before position (passed ++ c :: s) h := by
  induction ts generalizing front with
  | nil => exact ⟨hfront, hbest⟩
  | cons t ts ih =>
    obtain ⟨ht, hts⟩ := List.forall_mem_cons.mp hts
    rw [stepThreads]
    split
    · rename_i hi
      refine ⟨hfront, fun h hh => ?_⟩
      rw [← Option.some.inj hh]
      exact ht.isRun hi
    · rename_i chars next hi
      refine ih hts ?_
      split
      · rename_i hc
        have hspreads := p.spreads_spread (lastOr before (passed ++ [c])) s.head?
          (position + passed.length + 1) (p.code.size + 1) { t with place := next } front
        have hadded := hspreads.follows (ht.read hi hc) hfront
        rwa [Text.lastOr_append] at hadded
      · exact hfront
    · exact ih hts hfront

theorem isRun_of_acceptAtEnd {passed : Text} {ts : List Thread} {h : Hit}
    (hts : ∀ t ∈ ts, t.Follows p before position passed [])
    (hh : p.acceptAtEnd (position + passed.length) ts = some h) :
    p.IsRun before position (passed ++ []) h := by
  induction ts with
  | nil => cases hh
  | cons t ts ih =>
    obtain ⟨ht, hts⟩ := List.forall_mem_cons.mp hts
    rw [acceptAtEnd] at hh
    split at hh
    · rename_i hi
      rw [← Option.some.inj hh]
      exact ht.isRun hi
    · exact ih hts hh

/-- The threads alive at a position, with the one that begins there: as long as nothing has
matched, one does. -/
def begun (p : Program) (before after : Option Char) (position : Nat) (best : Option Hit)
    (front : Front) : Front :=
  if best.isNone then p.add before after position ⟨p.start, position, []⟩ front else front

/-- The threads alive after the next character, and the match if there is one so far. -/
def advance (p : Program) (before : Option Char) (position : Nat) (c : Char) (s : Text)
    (front : Front) (best : Option Hit) : Front × Option Hit :=
  p.stepThreads c s.head? position (p.begun before (some c) position best front).threads.toList
    p.emptyFront best

theorem searchFrom_nil (p : Program) (before : Option Char) (position : Nat) (front : Front)
    (best : Option Hit) :
    p.searchFrom before position [] front best =
      (p.acceptAtEnd position (p.begun before none position best front).threads.toList).or best :=
  rfl

theorem searchFrom_cons (p : Program) (before : Option Char) (position : Nat) (c : Char)
    (s : Text) (front : Front) (best : Option Hit) :
    p.searchFrom before position (c :: s) front best =
      if (p.begun before (some c) position best front).threads.isEmpty && best.isSome then best
      else
        p.searchFrom (some c) (position + 1) s (p.advance before position c s front best).1
          (p.advance before position c s front best).2 :=
  rfl

theorem Front.Follows.begun {passed : Text} {front : Front}
    (h : front.Follows p before position passed s) (best : Option Hit) :
    (p.begun (lastOr before passed) s.head? (position + passed.length) best front).Follows p before
      position passed s := by
  rw [Program.begun]
  split
  · exact (p.spreads_spread _ _ _ _ _ _).follows (.start p before position passed s) h
  · exact h

/-- **The search finds runs**, if the threads that it goes on with follow some. -/
theorem isRun_of_searchFrom {passed : Text} {front : Front} {best : Option Hit} {h : Hit}
    (hfront : front.Follows p before position passed s)
    (hbest : ∀ h ∈ best, p.IsRun before position (passed ++ s) h)
    (hh : p.searchFrom (lastOr before passed) (position + passed.length) s front best = some h) :
    p.IsRun before position (passed ++ s) h := by
  induction s generalizing passed front best with
  | nil =>
    rw [searchFrom_nil] at hh
    rcases Option.or_eq_some_iff.mp hh with hend | ⟨-, hbefore⟩
    · exact isRun_of_acceptAtEnd (hfront.begun best) hend
    · exact hbest h hbefore
  | cons c s ih =>
    rw [searchFrom_cons] at hh
    split at hh
    · exact hbest h hh
    · obtain ⟨hnext, hbest'⟩ := follows_stepThreads (hfront.begun best)
        (Front.Follows.empty p before position (passed ++ [c]) s) hbest
      rw [List.append_cons] at hbest' ⊢
      refine ih hnext hbest' ?_
      rw [Text.lastOr_append, List.length_append, ← Nat.add_assoc]
      exact hh

/-- **Whatever a search finds is a run.** -/
theorem isRun_of_search {h : Hit} (hh : p.search before position s = some h) :
    p.IsRun before position s h :=
  isRun_of_searchFrom (Front.Follows.empty p before position [] s) (by simp) hh

namespace IsRun

variable {h : Hit}

/-- A match does not begin before the text does. -/
theorem position_le (hrun : p.IsRun before position s h) : position ≤ h.start := by
  obtain ⟨u, w, after, n, goal, -, hstart, -⟩ := hrun
  omega

theorem start_le_stop (hrun : p.IsRun before position s h) : h.start ≤ h.stop := by
  obtain ⟨u, w, after, n, goal, -, hstart, hstop, -⟩ := hrun
  rw [List.length_append] at hstop
  omega

theorem stop_le (hrun : p.IsRun before position s h) : h.stop ≤ position + s.length := by
  obtain ⟨u, w, after, n, goal, rfl, hstart, hstop, -⟩ := hrun
  simp only [List.length_append] at hstop ⊢
  omega

end IsRun

end Program

end GnuLint
