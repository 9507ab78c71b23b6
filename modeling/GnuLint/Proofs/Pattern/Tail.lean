import GnuLint.Proofs.Pattern.Leftmost

/-!
# Matches in the tail of a text

A text that is cut where its first match begins keeps its matches, but the cut hides what was
before it. This matters in three ways, and only in these.

* Positions are counted from the cut. A search does the same wherever they are counted from
  (`GnuLint.Program.search_shift`).
* The search begins at the cut. It finds the same, since nothing matches before
  (`GnuLint.Program.search_drop`).
* At the cut, conditions are checked as at the beginning of a text. They may hold there and not
  in the whole text, or the other way round: `\b` and `^` look at the character before. An
  occurrence **stands alone** if no condition of its pattern tells the difference
  (`GnuLint.Pattern.StandsAlone`).

So replacing all matches of the text is replacing those of the tail, as far as the first
occurrence stands alone (`GnuLint.Pattern.replaceAll_of_standsAlone`).
-/

namespace GnuLint

open Text (lastOr)

/-! ### Counting positions from elsewhere -/

/-- Remembered positions, counted from elsewhere. -/
def Saved.shift (d : Nat) (saved : Saved) : Saved := saved.map fun slot => (slot.1, slot.2 + d)

/-- A match, with positions counted from elsewhere. -/
def Hit.shift (d : Nat) (h : Hit) : Hit := ⟨h.start + d, h.stop + d, Saved.shift d h.saved⟩

namespace Program

variable {p : Program} {before before' after : Option Char} {position : Nat} {s : Text}

/-- A thread, with positions counted from elsewhere. -/
def Thread.shift (d : Nat) (t : Thread) : Thread := ⟨t.place, t.start + d, Saved.shift d t.saved⟩

/-- A front, with positions counted from elsewhere. -/
def Front.shift (d : Nat) (front : Front) : Front :=
  ⟨front.visited, front.threads.map (Thread.shift d)⟩

@[simp] theorem Thread.place_shift (d : Nat) (t : Thread) : (t.shift d).place = t.place := rfl

@[simp] theorem Front.visited_shift (d : Nat) (front : Front) :
    (front.shift d).visited = front.visited := rfl

@[simp] theorem Front.toList_threads_shift (d : Nat) (front : Front) :
    (front.shift d).threads.toList = front.threads.toList.map (Thread.shift d) :=
  Array.toList_map

@[simp] theorem shift_emptyFront (p : Program) (d : Nat) : p.emptyFront.shift d = p.emptyFront := by
  simp [Front.shift, emptyFront]

theorem spread_shift (p : Program) (before after : Option Char) (position d n : Nat) (t : Thread)
    (front : Front) :
    p.spread before after (position + d) n (t.shift d) (front.shift d) =
      (p.spread before after position n t front).shift d := by
  induction n generalizing t front with
  | zero => rfl
  | succ n ih =>
    rw [spread, spread, Thread.place_shift, Front.visited_shift]
    split
    · rfl
    split
    · rfl
    · rename_i first second hi
      exact (congrArg _ (ih { t with place := first } (front.visit t.place))).trans
        (ih { t with place := second } _)
    · rename_i slot next hi
      exact ih { t with place := next, saved := (slot, position) :: t.saved }
        (front.visit t.place)
    · rename_i condition next hi
      split
      · exact ih { t with place := next } (front.visit t.place)
      · rfl
    · simp [Front.shift]

theorem stepThreads_shift (p : Program) (c : Char) (after : Option Char) (position d : Nat)
    (ts : List Thread) (front : Front) (best : Option Hit) :
    p.stepThreads c after (position + d) (ts.map (Thread.shift d)) (front.shift d)
        (best.map (Hit.shift d)) =
      ((p.stepThreads c after position ts front best).1.shift d,
        (p.stepThreads c after position ts front best).2.map (Hit.shift d)) := by
  induction ts generalizing front with
  | nil => rfl
  | cons t ts ih =>
    rw [List.map_cons, stepThreads, stepThreads, Thread.place_shift]
    split
    · rfl
    · rename_i chars next hi
      split
      · have hadd := p.spread_shift (some c) after (position + 1) d (p.code.size + 1)
          { t with place := next } front
        rw [Nat.add_right_comm] at hadd
        exact (congrArg (fun fr => p.stepThreads c after (position + d)
          (ts.map (Thread.shift d)) fr (best.map (Hit.shift d))) hadd).trans (ih _)
      · exact ih front
    · exact ih front

theorem acceptAtEnd_shift (p : Program) (position d : Nat) (ts : List Thread) :
    p.acceptAtEnd (position + d) (ts.map (Thread.shift d)) =
      (p.acceptAtEnd position ts).map (Hit.shift d) := by
  induction ts with
  | nil => rfl
  | cons t ts ih =>
    rw [List.map_cons, acceptAtEnd, acceptAtEnd, Thread.place_shift]
    split
    · rfl
    · exact ih

theorem begun_shift (p : Program) (before after : Option Char) (position d : Nat)
    (best : Option Hit) (front : Front) :
    p.begun before after (position + d) (best.map (Hit.shift d)) (front.shift d) =
      (p.begun before after position best front).shift d := by
  rw [begun, begun, Option.isNone_map]
  split
  · exact p.spread_shift before after position d _ ⟨p.start, position, []⟩ front
  · rfl

theorem searchFrom_shift (p : Program) (before : Option Char) (position d : Nat) (s : Text)
    (front : Front) (best : Option Hit) :
    p.searchFrom before (position + d) s (front.shift d) (best.map (Hit.shift d)) =
      (p.searchFrom before position s front best).map (Hit.shift d) := by
  induction s generalizing before position front best with
  | nil =>
    rw [searchFrom_nil, searchFrom_nil, begun_shift, Front.toList_threads_shift,
      acceptAtEnd_shift, Option.map_or]
  | cons c s ih =>
    have hstep := p.stepThreads_shift c s.head? position d
      (p.begun before (some c) position best front).threads.toList p.emptyFront best
    rw [shift_emptyFront, ← Front.toList_threads_shift, ← begun_shift] at hstep
    rw [searchFrom_advance, searchFrom_advance, ← ih, Nat.add_right_comm, advance, hstep, advance]

/-- **Where positions are counted from makes no difference to a search.** -/
theorem search_shift (p : Program) (before : Option Char) (position d : Nat) (s : Text) :
    p.search before (position + d) s = (p.search before position s).map (Hit.shift d) := by
  have h := p.searchFrom_shift before position d s p.emptyFront none
  rwa [shift_emptyFront] at h

/-! ### The character before a text -/

/-- The conditions that a program checks. -/
def conditions (p : Program) : List Look :=
  p.code.toList.filterMap fun
    | .check condition _ => some condition
    | _ => none

/-- **Two characters before a text look alike to a program** if its conditions hold alike after
them. -/
def LooksAlike (p : Program) (before before' after : Option Char) : Prop :=
  ∀ condition ∈ p.conditions, condition.holds before after = condition.holds before' after

instance : Decidable (p.LooksAlike before before' after) :=
  inferInstanceAs (Decidable (∀ condition ∈ p.conditions,
    condition.holds before after = condition.holds before' after))

theorem mem_conditions {place next : Nat} {condition : Look}
    (hi : p.instruction? place = some (.check condition next)) : condition ∈ p.conditions := by
  refine List.mem_filterMap.mpr ⟨.check condition next, ?_, rfl⟩
  exact Array.mem_toList_iff.mpr (Array.mem_of_getElem? hi)

theorem spread_of_looksAlike (h : p.LooksAlike before before' after) (n : Nat) (t : Thread)
    (front : Front) :
    p.spread before after position n t front = p.spread before' after position n t front := by
  induction n generalizing t front with
  | zero => rfl
  | succ n ih =>
    rw [spread, spread]
    split
    · rfl
    split
    · rfl
    · exact (ih _ _).trans (congrArg _ (ih _ _))
    · exact ih _ _
    · rename_i condition next hi
      rw [h condition (mem_conditions hi)]
      split
      · exact ih _ _
      · rfl
    · rfl

/-- **A search finds the same after characters that look alike.** -/
theorem search_of_looksAlike (h : p.LooksAlike before before' s.head?) :
    p.search before position s = p.search before' position s := by
  have hbegun : p.begun before s.head? position none p.emptyFront =
      p.begun before' s.head? position none p.emptyFront := spread_of_looksAlike h _ _ _
  cases s with
  | nil =>
    rw [search, search, searchFrom_nil, searchFrom_nil]
    rw [List.head?_nil] at hbegun
    rw [hbegun]
  | cons c s =>
    rw [List.head?_cons] at hbegun
    rw [search, search, searchFrom_advance, searchFrom_advance, advance, advance, hbegun]

end Program

namespace Pattern

variable {p : Program} {before before' : Option Char} {position : Nat} {s : Text} {h : Hit}

/-! ### One match after the other -/

/-- The first match that begins after the next character. -/
def later? (p : Program) (position : Nat) : Text → Option Hit
  | [] => none
  | c :: s => p.search (some c) (position + 1) s

/-- The next match, if the last one ended at some position: a match of the empty text right
there is passed over. -/
def next? (p : Program) (before : Option Char) (position : Nat) (last : Option Nat) (s : Text) :
    Option Hit :=
  match p.search before position s with
  | some h =>
    if h.start == h.stop && last == some h.stop then later? p position s else some h
  | none => none

theorem hitsWithin_succ (p : Program) (n : Nat) (before : Option Char) (position : Nat)
    (last : Option Nat) (s : Text) :
    hitsWithin p (n + 1) before position last s =
      match next? p before position last s with
      | none => []
      | some h =>
        h :: hitsWithin p n (lastOr before (s.take (h.stop - position))) h.stop (some h.stop)
          (s.drop (h.stop - position)) :=
  rfl

/-- Before anything has been matched, the next match is the first one. -/
@[simp] theorem next?_none (p : Program) (before : Option Char) (position : Nat) (s : Text) :
    next? p before position none s = p.search before position s := by
  rw [next?]
  cases p.search before position s <;> simp

/-- **The next match takes at least a character**, if the last one ended where the search goes
on. -/
theorem lt_stop_of_next? (hh : next? p before position (some position) s = some h) :
    position < h.stop := by
  rw [next?] at hh
  split at hh
  · rename_i first hfirst
    have hrun := Program.isRun_of_search hfirst
    have hstart := hrun.position_le
    have hstop := hrun.start_le_stop
    split at hh
    · -- the match of the empty text is passed over, and the next one begins later
      cases s with
      | nil => cases hh
      | cons c s =>
        have hrun' := Program.isRun_of_search hh
        have hstart' := hrun'.position_le
        have hstop' := hrun'.start_le_stop
        omega
    · rename_i hother
      obtain rfl := Option.some.inj hh
      simp only [Bool.and_eq_true, beq_iff_eq, Option.some.injEq, not_and] at hother
      omega
  · cases hh

theorem next?_nil (p : Program) (before : Option Char) (position : Nat) :
    next? p before position (some position) [] = none := by
  rw [next?]
  split
  · rename_i h hh
    have hrun := Program.isRun_of_search hh
    have hstart := hrun.position_le
    have hle := hrun.start_le_stop
    have hstop := hrun.stop_le
    rw [List.length_nil] at hstop
    refine if_pos ?_
    simp only [Bool.and_eq_true, beq_iff_eq, Option.some.injEq]
    omega
  · rfl

/-- **The bound on the number of matches is never reached.** -/
theorem hitsWithin_of_length_le {n m : Nat} (hn : s.length ≤ n) (hm : s.length ≤ m) :
    hitsWithin p n before position (some position) s =
      hitsWithin p m before position (some position) s := by
  induction n generalizing m before position s with
  | zero =>
    obtain rfl := List.eq_nil_of_length_eq_zero (Nat.le_zero.mp hn)
    cases m with
    | zero => rfl
    | succ m => rw [hitsWithin_succ, next?_nil, hitsWithin]
  | succ n ih =>
    cases m with
    | zero =>
      obtain rfl := List.eq_nil_of_length_eq_zero (Nat.le_zero.mp hm)
      rw [hitsWithin_succ, next?_nil, hitsWithin]
    | succ m =>
      rw [hitsWithin_succ, hitsWithin_succ]
      split
      · rfl
      · rename_i h hh
        have hlt := lt_stop_of_next? hh
        refine congrArg _ (ih ?_ ?_) <;> (rw [List.length_drop]; omega)

theorem next?_shift (p : Program) (before : Option Char) (position d : Nat) (last : Option Nat)
    (s : Text) :
    next? p before (position + d) (last.map (· + d)) s =
      (next? p before position last s).map (Hit.shift d) := by
  rw [next?, next?, Program.search_shift]
  cases p.search before position s with
  | none => rfl
  | some h =>
    have hsame : ((Hit.shift d h).start == (Hit.shift d h).stop &&
        last.map (· + d) == some (Hit.shift d h).stop) =
        (h.start == h.stop && last == some h.stop) := by
      rw [Bool.eq_iff_iff]
      cases last <;> simp [Hit.shift]
    simp only [Option.map_some, hsame]
    split
    · cases s with
      | nil => rfl
      | cons c s => rw [later?, later?, ← Program.search_shift, Nat.add_right_comm]
    · rfl

/-- Where positions are counted from makes no difference to what is matched. -/
theorem hitsWithin_shift (p : Program) (n : Nat) (before : Option Char) (position d : Nat)
    (last : Option Nat) (s : Text) :
    hitsWithin p n before (position + d) (last.map (· + d)) s =
      (hitsWithin p n before position last s).map (Hit.shift d) := by
  induction n generalizing before position last s with
  | zero => rfl
  | succ n ih =>
    rw [hitsWithin_succ, hitsWithin_succ, next?_shift]
    cases next? p before position last s with
    | none => rfl
    | some h =>
      have htaken : (Hit.shift d h).stop - (position + d) = h.stop - position :=
        Nat.add_sub_add_right ..
      simp only [Option.map_some, List.map_cons, htaken]
      exact congrArg _ (ih _ h.stop (some h.stop) _)

/-- **Characters that look alike have the same matches after them.** -/
theorem hitsWithin_of_looksAlike (h : p.LooksAlike before before' s.head?) (n position : Nat)
    (last : Option Nat) :
    hitsWithin p n before position last s = hitsWithin p n before' position last s := by
  induction n generalizing position last with
  | zero => rfl
  | succ n ih =>
    have hnext : next? p before position last s = next? p before' position last s := by
      rw [next?, next?, Program.search_of_looksAlike h]
    rw [hitsWithin_succ, hitsWithin_succ, hnext]
    split
    · rfl
    · rename_i hit hhit
      refine congrArg _ ?_
      cases htaken : s.take (hit.stop - position) with
      | nil =>
        -- nothing has been passed, so the same characters stand before what is left
        have hdrop : s.drop (hit.stop - position) = s := by
          simpa [htaken] using List.take_append_drop (hit.stop - position) s
        rw [hdrop]
        exact ih _ _
      | cons c t => rw [Text.lastOr_cons, Text.lastOr_cons]

/-! ### From the first match on -/

/-- **The matches of a text are those of its tail**, if the tail begins where the first match
does and is told the character before. -/
theorem hitsWithin_drop {n k : Nat} (hh : p.search before position s = some h)
    (hk : h.start = position + k) :
    hitsWithin p n before position none s =
      hitsWithin p n (lastOr before (s.take k)) (position + k) none (s.drop k) := by
  cases n with
  | zero => rfl
  | succ n =>
    have hrun := (Program.isRun_of_search hh).start_le_stop
    have htaken : h.stop - position = k + (h.stop - (position + k)) := by omega
    rw [hitsWithin_succ, hitsWithin_succ, next?_none, next?_none, hh, Program.search_drop hh hk]
    simp only [htaken, List.take_add, Text.lastOr_append, List.drop_drop]

/-- The text before the first match is as long as the position of the match says. -/
theorem length_before_occurrence {p : Pattern} (hh : p.hit? s = some h) :
    (occurrence s h).before.length = h.start := by
  have hrun := Program.isRun_of_search hh
  have hstop := hrun.start_le_stop.trans hrun.stop_le
  rw [Nat.zero_add] at hstop
  exact List.length_take_of_le hstop

/-- **An occurrence stands alone** if the conditions that its pattern checks hold where it
begins just as if the text began there. -/
def StandsAlone (p : Pattern) (o : Occurrence) : Prop :=
  p.program.LooksAlike (lastOr none o.before) none (o.matched ++ o.after).head?

instance (p : Pattern) (o : Occurrence) : Decidable (p.StandsAlone o) :=
  inferInstanceAs (Decidable (p.program.LooksAlike ..))

/-- The first match is the one that a search finds. -/
theorem exists_hits_of_hit? {p : Pattern} (hh : p.hit? s = some h) :
    ∃ hs, p.hits s = h :: hs := by
  rw [hits, hitsWithin_succ, next?_none]
  rw [hit?] at hh
  rw [hh]
  exact ⟨_, rfl⟩

/-- **The matches of a text are those of its tail**, if the tail begins with the first
occurrence and that stands alone. -/
theorem hits_of_standsAlone {p : Pattern} {s : Text} {o : Occurrence} (h : p.find? s = some o)
    (halone : p.StandsAlone o) :
    p.hits s = (p.hits (o.matched ++ o.after)).map (Hit.shift o.before.length) := by
  obtain ⟨hit, hhit, rfl⟩ := Option.map_eq_some_iff.mp h
  have htail : (occurrence s hit).matched ++ (occurrence s hit).after = s.drop hit.start :=
    List.take_append_drop ..
  rw [StandsAlone, htail] at halone
  rw [htail, length_before_occurrence hhit, hits, hits,
    hitsWithin_drop hhit (Nat.zero_add hit.start).symm]
  refine (hitsWithin_of_looksAlike halone _ _ _).trans ?_
  rw [← hitsWithin_shift]
  -- the bounds differ, and neither is reached
  have hbound (n : Nat) (hn : (s.drop hit.start).length + 1 ≤ n) :
      hitsWithin p.program (n + 1) none (0 + hit.start) none (s.drop hit.start) =
        hitsWithin p.program ((s.drop hit.start).length + 1 + 1) none (0 + hit.start) none
          (s.drop hit.start) := by
    rw [hitsWithin_succ, hitsWithin_succ]
    split
    · rfl
    · refine congrArg _ (hitsWithin_of_length_le ?_ ?_) <;> (rw [List.length_drop]; omega)
  refine hbound (s.length + 1) ?_
  rw [List.length_drop]
  omega

theorem slice_append (u s : Text) (start stop : Nat) :
    slice (u ++ s) (start + u.length) (stop + u.length) = slice s start stop := by
  rw [slice, slice, Nat.add_sub_add_right, Nat.add_comm start, ← List.drop_drop,
    List.drop_left]

theorem group?_shift (d : Nat) (h : Hit) (index : Nat) :
    (h.shift d).group? index = (h.group? index).map fun ends => (ends.1 + d, ends.2 + d) := by
  have hlookup (slot : Nat) (saved : Saved) :
      (Saved.shift d saved).lookup slot = (saved.lookup slot).map (· + d) := by
    induction saved with
    | nil => rfl
    | cons entry saved ih =>
      rw [Saved.shift, List.map_cons, List.lookup_cons, List.lookup_cons]
      split
      · rfl
      · exact ih
  rw [Hit.group?, Hit.group?]
  split
  · rfl
  · rw [Hit.shift, hlookup, hlookup]
    cases h.saved.lookup (2 * index) <;> cases h.saved.lookup (2 * index + 1) <;> rfl

theorem groupText_shift (p : Pattern) (u s : Text) (h : Hit) (piece : TemplatePiece) :
    p.groupText (u ++ s) (h.shift u.length) piece = p.groupText s h piece := by
  have hgroup (index? : Option Nat) : index?.bind (h.shift u.length).group? =
      (index?.bind h.group?).map fun ends => (ends.1 + u.length, ends.2 + u.length) := by
    cases index? with
    | none => rfl
    | some index => exact group?_shift u.length h index
  unfold groupText
  dsimp only
  rw [hgroup]
  generalize Option.bind _ h.group? = ends?
  cases ends? with
  | none => rfl
  | some ends => exact slice_append u s ends.1 ends.2

/-- What is put in the place of matches is read off the tail as well as off the text. -/
theorem replaceFrom_shift (p : Pattern) (u s t : Text) (position : Nat) (hs : List Hit) :
    p.replaceFrom (u ++ s) t (position + u.length) (hs.map (Hit.shift u.length)) =
      p.replaceFrom s t position hs := by
  induction hs generalizing position with
  | nil =>
    rw [List.map_nil, replaceFrom, replaceFrom, Nat.add_comm, ← List.drop_drop, List.drop_left]
  | cons h hs ih =>
    rw [List.map_cons, replaceFrom, replaceFrom, funext (p.groupText_shift u s h)]
    exact congrArg₂ _ (slice_append u s position h.start) (congrArg _ (ih h.stop))

/-- **Replacing all matches of a text replaces those of its tail**, if the tail begins with the
first occurrence and that stands alone. -/
theorem replaceAll_of_standsAlone {p : Pattern} {s : Text} {o : Occurrence}
    (h : p.find? s = some o) (halone : p.StandsAlone o) (t : Text) :
    p.replaceAll s t = o.before ++ p.replaceAll (o.matched ++ o.after) t := by
  have hs : s = o.before ++ (o.matched ++ o.after) := by
    rw [← List.append_assoc, append_find? h]
  have hfrom := p.replaceFrom_shift o.before (o.matched ++ o.after) t 0
    (p.hits (o.matched ++ o.after))
  rw [← hits_of_standsAlone h halone, ← hs, Nat.zero_add] at hfrom
  rw [replaceAll, replaceAll, ← hfrom]
  obtain ⟨hit, hhit, rfl⟩ := Option.map_eq_some_iff.mp h
  obtain ⟨hits, hhits⟩ := exists_hits_of_hit? hhit
  rw [hhits, replaceFrom, replaceFrom, length_before_occurrence hhit]
  simp [slice, occurrence]

end Pattern

end GnuLint
