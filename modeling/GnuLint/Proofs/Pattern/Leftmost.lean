import GnuLint.Proofs.Pattern.Anchor
import GnuLint.Proofs.Pattern.Run

/-!
# Where a match begins

A match is found as early in the text as one begins. A place of the program is **live** at a
position if some run from there reads a part of the text that follows and accepts
(`GnuLint.Program.IsLive`). Threads at places that are not live change nothing: two fronts with
the same live threads, and the same live places visited, lead to the same match
(`GnuLint.Program.searchFrom_congr`). And of the live threads, the first one leads to the match
(`GnuLint.Program.exists_searchFrom_of_live`), since whatever it spreads to is kept unless a
thread has been there (`GnuLint.Program.closesMore_spread`): no way is cut short by the bound on
the instructions.

So the search has nothing to remember of the text before the match: it may as well begin where
the match does (`GnuLint.Program.search_drop`), as long as it is told the character before.
-/

namespace GnuLint

open Text (lastOr)

namespace Program

variable {p : Program} {before after : Option Char} {position : Nat} {s : Text} {place : Nat}

/-! ### Live places -/

/-- **A place is live** if some run from there reads a part of the text that follows and
accepts it. -/
def IsLive (p : Program) (before : Option Char) (s : Text) (place : Nat) : Prop :=
  ∃ n w rest goal, s = w ++ rest ∧ p.Runs n before place w rest goal ∧
    p.instruction? goal = some .accept

/-- What it takes for an instruction to be live: it accepts, or it leads to a place that is. -/
def Leads (p : Program) (before : Option Char) (s : Text) : Instruction → Prop
  | .accept => True
  | .read chars next => ∃ c t, s = c :: t ∧ chars.mem c = true ∧ p.IsLive (some c) t next
  | .check condition next => condition.holds before s.head? = true ∧ p.IsLive before s next
  | .save _ next => p.IsLive before s next
  | .fork first second => p.IsLive before s first ∨ p.IsLive before s second

/-- **A place is live exactly if its instruction is.** -/
theorem isLive_iff {i : Instruction} (hi : p.instruction? place = some i) :
    p.IsLive before s place ↔ p.Leads before s i := by
  constructor
  · rintro ⟨n, w, rest, goal, rfl, hruns, hgoal⟩
    cases hruns with
    | refl =>
      obtain rfl := Option.some.inj (hi.symm.trans hgoal)
      trivial
    | read hi' hc hruns =>
      obtain rfl := Option.some.inj (hi.symm.trans hi')
      exact ⟨_, _, rfl, hc, _, _, rest, goal, rfl, hruns, hgoal⟩
    | first hi' hruns =>
      obtain rfl := Option.some.inj (hi.symm.trans hi')
      exact Or.inl ⟨_, w, rest, goal, rfl, hruns, hgoal⟩
    | second hi' hruns =>
      obtain rfl := Option.some.inj (hi.symm.trans hi')
      exact Or.inr ⟨_, w, rest, goal, rfl, hruns, hgoal⟩
    | save hi' hruns =>
      obtain rfl := Option.some.inj (hi.symm.trans hi')
      exact ⟨_, w, rest, goal, rfl, hruns, hgoal⟩
    | check hi' hholds hruns =>
      obtain rfl := Option.some.inj (hi.symm.trans hi')
      exact ⟨hholds, _, w, rest, goal, rfl, hruns, hgoal⟩
  · intro h
    cases i with
    | accept => exact ⟨0, [], s, place, rfl, .refl, hi⟩
    | read chars next =>
      obtain ⟨c, t, rfl, hc, n, w, rest, goal, rfl, hruns, hgoal⟩ := h
      exact ⟨n + 1, c :: w, rest, goal, rfl, .read hi hc hruns, hgoal⟩
    | check condition next =>
      obtain ⟨hholds, n, w, rest, goal, rfl, hruns, hgoal⟩ := h
      exact ⟨n + 1, w, rest, goal, rfl, .check hi hholds hruns, hgoal⟩
    | save slot next =>
      obtain ⟨n, w, rest, goal, rfl, hruns, hgoal⟩ := h
      exact ⟨n + 1, w, rest, goal, rfl, .save hi hruns, hgoal⟩
    | fork first second =>
      rcases h with ⟨n, w, rest, goal, rfl, hruns, hgoal⟩ | ⟨n, w, rest, goal, rfl, hruns, hgoal⟩
      · exact ⟨n + 1, w, rest, goal, rfl, .first hi hruns, hgoal⟩
      · exact ⟨n + 1, w, rest, goal, rfl, .second hi hruns, hgoal⟩

/-! ### Fronts that differ in what is dead only -/

open Classical in
/-- The threads that may still accept. -/
noncomputable def live (p : Program) (before : Option Char) (s : Text) (ts : List Thread) :
    List Thread :=
  ts.filter fun t => p.IsLive before s t.place

theorem live_append (p : Program) (before : Option Char) (s : Text) (ts us : List Thread) :
    p.live before s (ts ++ us) = p.live before s ts ++ p.live before s us := List.filter_append ..

theorem live_cons_of_isLive {t : Thread} (h : p.IsLive before s t.place) (ts : List Thread) :
    p.live before s (t :: ts) = t :: p.live before s ts :=
  List.filter_cons_of_pos (by simpa using h)

theorem live_cons_of_not {t : Thread} (h : ¬p.IsLive before s t.place) (ts : List Thread) :
    p.live before s (t :: ts) = p.live before s ts :=
  List.filter_cons_of_neg (by simpa using h)

theorem mem_live {t : Thread} {ts : List Thread} :
    t ∈ p.live before s ts ↔ t ∈ ts ∧ p.IsLive before s t.place := by
  simp [live]

/-- **Two fronts are alike as far as live places go**: they have the same live threads in the
same order, and they have visited the same live places. -/
structure SameLive (p : Program) (before : Option Char) (s : Text) (front other : Front) :
    Prop where
  threads : p.live before s front.threads.toList = p.live before s other.threads.toList
  isVisited {place : Nat} : p.IsLive before s place →
    front.isVisited place = other.isVisited place

theorem Front.isVisited_visit (front : Front) (place place' : Nat) :
    (front.visit place).isVisited place' = (decide (place = place') || front.isVisited place') := by
  rw [isVisited, isVisited, visit, Array.getElem?_setIfInBounds]
  by_cases h : place = place'
  · subst h
    by_cases hsize : place < front.visited.size <;> simp [hsize]
  · simp [h]

namespace SameLive

variable {front other third : Front}

theorem refl (p : Program) (before : Option Char) (s : Text) (front : Front) :
    p.SameLive before s front front := ⟨rfl, fun _ => rfl⟩

theorem symm (h : p.SameLive before s front other) : p.SameLive before s other front :=
  ⟨h.threads.symm, fun hlive => (h.isVisited hlive).symm⟩

theorem trans (h : p.SameLive before s front other) (h' : p.SameLive before s other third) :
    p.SameLive before s front third :=
  ⟨h.threads.trans h'.threads, fun hlive => (h.isVisited hlive).trans (h'.isVisited hlive)⟩

theorem visit (h : p.SameLive before s front other) (place : Nat) :
    p.SameLive before s (front.visit place) (other.visit place) :=
  ⟨h.threads, fun hlive => by
    rw [Front.isVisited_visit, Front.isVisited_visit, h.isVisited hlive]⟩

theorem visit_dead (hdead : ¬p.IsLive before s place) :
    p.SameLive before s (front.visit place) front := by
  refine ⟨rfl, fun {place'} hlive => ?_⟩
  have hne : place ≠ place' := by
    rintro rfl
    exact hdead hlive
  rw [Front.isVisited_visit, decide_eq_false hne, Bool.false_or]

theorem push (h : p.SameLive before s front other) (t : Thread) :
    p.SameLive before s (front.push t) (other.push t) := by
  refine ⟨?_, h.isVisited⟩
  rw [Front.toList_threads_push, Front.toList_threads_push, live_append, live_append, h.threads]

theorem push_dead {t : Thread} (hdead : ¬p.IsLive before s t.place) :
    p.SameLive before s (front.push t) front := by
  refine ⟨?_, fun _ => rfl⟩
  rw [Front.toList_threads_push, live_append, live_cons_of_not hdead]
  exact List.append_nil _

end SameLive

/-- **A dead thread spreads to dead places only.** -/
theorem Spreads.sameLive_of_dead {t : Thread} {front result : Front}
    (h : p.Spreads before s.head? position t front result)
    (hdead : ¬p.IsLive before s t.place) : p.SameLive before s result front := by
  induction h with
  | idle => exact .refl p before s _
  | stop => exact .visit_dead hdead
  | wait => exact (SameLive.push_dead hdead).trans (.visit_dead hdead)
  | fork hi _ _ ih ih' =>
    obtain ⟨hfirst, hsecond⟩ := not_or.mp (mt (isLive_iff hi).mpr hdead)
    exact ((ih' hsecond).trans (ih hfirst)).trans (.visit_dead hdead)
  | save hi _ ih => exact (ih (mt (isLive_iff hi).mpr hdead)).trans (.visit_dead hdead)
  | check hi hholds _ ih =>
    have hnext := fun h => hdead ((isLive_iff hi).mpr ⟨hholds, h⟩)
    exact (ih hnext).trans (.visit_dead hdead)

/-- **A thread spreads alike in fronts that are alike.** -/
theorem sameLive_spread {front other : Front} (n : Nat) (t : Thread)
    (h : p.SameLive before s front other) :
    p.SameLive before s (p.spread before s.head? position n t front)
      (p.spread before s.head? position n t other) := by
  induction n generalizing t front other with
  | zero => exact h
  | succ n ih =>
    by_cases hdead : p.IsLive before s t.place
    swap
    · exact (((p.spreads_spread ..).sameLive_of_dead hdead).trans h).trans
        ((p.spreads_spread ..).sameLive_of_dead hdead).symm
    have hvisited : front.visited[t.place]?.getD true = other.visited[t.place]?.getD true :=
      h.isVisited hdead
    have hvisit := h.visit t.place
    rw [spread, spread, hvisited]
    split
    · exact h
    split
    · exact hvisit
    · exact ih _ (ih _ hvisit)
    · exact ih _ hvisit
    · split
      · exact ih _ hvisit
      · exact hvisit
    · exact hvisit.push t

/-! ### Steps of the search -/

theorem SameLive.begun {front other : Front} (h : p.SameLive before s front other)
    (position : Nat) (best : Option Hit) :
    p.SameLive before s (p.begun before s.head? position best front)
      (p.begun before s.head? position best other) := by
  rw [Program.begun, Program.begun]
  split
  · exact sameLive_spread _ _ h
  · exact h

/-- **Dead threads make no difference to a step**: none of them accepts, and what they become
is dead. -/
theorem stepThreads_live {c : Char} {front other : Front} (before : Option Char)
    (position : Nat) (ts : List Thread) (h : p.SameLive (some c) s front other)
    (best : Option Hit) :
    p.SameLive (some c) s (p.stepThreads c s.head? position ts front best).1
        (p.stepThreads c s.head? position (p.live before (c :: s) ts) other best).1 ∧
      (p.stepThreads c s.head? position ts front best).2 =
        (p.stepThreads c s.head? position (p.live before (c :: s) ts) other best).2 := by
  induction ts generalizing front other with
  | nil => exact ⟨h, rfl⟩
  | cons t ts ih =>
    by_cases hlive : p.IsLive before (c :: s) t.place
    · rw [live_cons_of_isLive hlive, stepThreads, stepThreads]
      split
      · exact ⟨h, rfl⟩
      · refine ih ?_
        split
        · exact sameLive_spread _ _ h
        · exact h
      · exact ih h
    · rw [live_cons_of_not hlive, stepThreads]
      split
      · rename_i hi
        exact absurd ((isLive_iff hi).mpr trivial) hlive
      · rename_i chars next hi
        refine ih ?_
        split
        · rename_i hc
          -- the character is read, so the thread is dead behind it
          have hdead : ¬p.IsLive (some c) s next := fun hnext =>
            hlive ((isLive_iff hi).mpr ⟨c, s, rfl, hc, hnext⟩)
          exact ((p.spreads_spread ..).sameLive_of_dead hdead).trans h
        · exact h
      · exact ih h

/-- Only live threads accept at the end of a text. -/
theorem acceptAtEnd_live (before : Option Char) (ts : List Thread) :
    p.acceptAtEnd position ts = p.acceptAtEnd position (p.live before [] ts) := by
  induction ts with
  | nil => rfl
  | cons t ts ih =>
    by_cases hlive : p.IsLive before [] t.place
    · rw [live_cons_of_isLive hlive, acceptAtEnd, acceptAtEnd, ih]
    · rw [live_cons_of_not hlive, acceptAtEnd]
      split
      · rename_i hi
        exact absurd ((isLive_iff hi).mpr trivial) hlive
      · exact ih

/-- **Fronts that differ in dead threads only are alike after the next character**, and so is
what has matched. -/
theorem SameLive.advance {c : Char} {front other : Front}
    (h : p.SameLive before (c :: s) front other) (position : Nat) (best : Option Hit) :
    p.SameLive (some c) s (p.advance before position c s front best).1
        (p.advance before position c s other best).1 ∧
      (p.advance before position c s front best).2 =
        (p.advance before position c s other best).2 := by
  have hbegun := (h.begun position best).threads
  rw [List.head?_cons] at hbegun
  have hstep (fr : Front) := stepThreads_live before position
    (p.begun before (some c) position best fr).threads.toList
    (.refl p (some c) s p.emptyFront) best
  obtain ⟨hfront, hbest⟩ := hstep front
  obtain ⟨hother, hbest'⟩ := hstep other
  rw [hbegun] at hfront hbest
  exact ⟨hfront.trans hother.symm, hbest.trans hbest'.symm⟩

/-- Without live threads, what has matched stays, and no thread is live later on. -/
theorem advance_of_dead {c : Char} {front : Front} (position : Nat) (best : Option Hit)
    (hdead : p.live before (c :: s) (p.begun before (some c) position best front).threads.toList
      = []) :
    p.SameLive (some c) s (p.advance before position c s front best).1 p.emptyFront ∧
      (p.advance before position c s front best).2 = best := by
  have hstep := stepThreads_live before position
    (p.begun before (some c) position best front).threads.toList
    (.refl p (some c) s p.emptyFront) best
  rw [hdead] at hstep
  exact hstep

/-- Once something has matched, dead threads do not change it. -/
theorem searchFrom_of_dead {front : Front} (h : Hit)
    (hdead : p.live before s front.threads.toList = []) :
    p.searchFrom before position s front (some h) = some h := by
  induction s generalizing before position front with
  | nil =>
    rw [searchFrom_nil, acceptAtEnd_live before, begun]
    simp [hdead, acceptAtEnd]
  | cons c s ih =>
    rw [searchFrom_cons]
    split
    · rfl
    obtain ⟨hfront, hbest⟩ := advance_of_dead position (some h) hdead
    rw [hbest]
    exact ih hfront.threads

/-- The search may stop early or go on without threads: it comes to the same. -/
theorem searchFrom_advance (p : Program) (before : Option Char) (position : Nat) (c : Char)
    (s : Text) (front : Front) (best : Option Hit) :
    p.searchFrom before position (c :: s) front best =
      p.searchFrom (some c) (position + 1) s (p.advance before position c s front best).1
        (p.advance before position c s front best).2 := by
  rw [searchFrom_cons]
  split
  · rename_i hstop
    obtain ⟨hempty, hbest⟩ := Bool.and_eq_true_iff.mp hstop
    obtain ⟨h, rfl⟩ := Option.isSome_iff_exists.mp hbest
    have hdead : p.live before (c :: s)
        (p.begun before (some c) position (some h) front).threads.toList = [] := by
      rw [Array.isEmpty_iff.mp hempty]
      rfl
    obtain ⟨hfront, hbest⟩ := advance_of_dead position (some h) hdead
    rw [hbest, searchFrom_of_dead h hfront.threads]
  · rfl

/-- **Fronts that differ in dead threads only lead to the same match.** -/
theorem searchFrom_congr {front other : Front} (h : p.SameLive before s front other)
    (best : Option Hit) :
    p.searchFrom before position s front best = p.searchFrom before position s other best := by
  induction s generalizing before position front other best with
  | nil =>
    have hbegun := (h.begun position best).threads
    rw [List.head?_nil] at hbegun
    rw [searchFrom_nil, searchFrom_nil, acceptAtEnd_live before, hbegun,
      ← acceptAtEnd_live]
  | cons c s ih =>
    obtain ⟨hfront, hbest⟩ := h.advance position best
    rw [searchFrom_advance, searchFrom_advance, hbest]
    exact ih hfront _

/-! ### Places that are visited -/

/-- The number of places that have not been visited. -/
def Front.unvisited (front : Front) : Nat := front.visited.toList.count false

theorem Front.unvisited_visit_le (front : Front) (place : Nat) :
    (front.visit place).unvisited ≤ front.unvisited := by
  rw [unvisited, unvisited, visit, Array.toList_setIfInBounds]
  rcases Nat.lt_or_ge place front.visited.toList.length with hlt | hge
  · rw [List.count_set hlt]
    simp
  · rw [List.set_eq_of_length_le hge]

theorem Front.unvisited_visit {front : Front} {place : Nat}
    (h : front.isVisited place = false) :
    (front.visit place).unvisited + 1 = front.unvisited := by
  rw [isVisited] at h
  have hplace : front.visited.toList[place]? = some false := by
    rw [Array.getElem?_toList]
    cases hget : front.visited[place]? with
    | none => simp [hget] at h
    | some b => simpa [hget] using h
  obtain ⟨hlt, hget⟩ := List.getElem?_eq_some_iff.mp hplace
  have hpos : 0 < front.visited.toList.count false :=
    List.count_pos_iff.mpr (List.mem_of_getElem? hplace)
  rw [unvisited, unvisited, visit, Array.toList_setIfInBounds, List.count_set hlt, hget]
  simp only [beq_self_eq_true, if_true, Bool.true_beq, Bool.false_eq_true, if_false]
  omega

/-- **What spreading a thread does to a front**: threads are added after the others; they
wait, and began where the thread began. -/
structure Front.Extends (p : Program) (start : Nat) (front result : Front) : Prop where
  exists_append : ∃ ts, result.threads.toList = front.threads.toList ++ ts ∧
    ∀ t ∈ ts, p.IsWaiting t.place ∧ t.start = start
  isVisited {place : Nat} : front.isVisited place = true → result.isVisited place = true
  unvisited_le : result.unvisited ≤ front.unvisited

namespace Front.Extends

variable {front middle result : Front} {start : Nat}

theorem refl (p : Program) (start : Nat) (front : Front) : front.Extends p start front :=
  ⟨⟨[], (List.append_nil _).symm, by simp⟩, id, Nat.le_refl _⟩

theorem trans (h : front.Extends p start middle) (h' : middle.Extends p start result) :
    front.Extends p start result := by
  obtain ⟨ts, hts, hall⟩ := h.exists_append
  obtain ⟨ts', hts', hall'⟩ := h'.exists_append
  refine ⟨⟨ts ++ ts', ?_, ?_⟩, fun hplace => h'.isVisited (h.isVisited hplace),
    Nat.le_trans h'.unvisited_le h.unvisited_le⟩
  · rw [hts', hts, List.append_assoc]
  · exact List.forall_mem_append.mpr ⟨hall, hall'⟩

theorem visit (p : Program) (start : Nat) (front : Front) (place : Nat) :
    front.Extends p start (front.visit place) := by
  refine ⟨⟨[], (List.append_nil _).symm, by simp⟩, fun hplace => ?_,
    front.unvisited_visit_le place⟩
  rw [Front.isVisited_visit, hplace, Bool.or_true]

theorem push {t : Thread} (hwaits : p.IsWaiting t.place) (hstart : t.start = start) :
    front.Extends p start (front.push t) :=
  ⟨⟨[t], Front.toList_threads_push front t, by simp [hwaits, hstart]⟩, id, Nat.le_refl _⟩

end Front.Extends

/-- **Spreading a thread extends the front.** -/
theorem Spreads.extends {t : Thread} {front result : Front}
    (h : p.Spreads before after position t front result) : front.Extends p t.start result := by
  induction h with
  | idle => exact .refl p _ _
  | stop => exact .visit p _ _ _
  | wait hwaits => exact (Front.Extends.visit p _ _ _).trans (.push hwaits rfl)
  | fork _ _ _ ih ih' => exact ((Front.Extends.visit p _ _ _).trans ih).trans ih'
  | save _ _ ih => exact (Front.Extends.visit p _ _ _).trans ih
  | check _ _ _ ih => exact (Front.Extends.visit p _ _ _).trans ih

/-- A front closes a place if it has a thread that waits there, or has visited wherever the
place leads to. -/
def Front.Closes (p : Program) (before after : Option Char) (front : Front) (place : Nat) :
    Prop :=
  match p.instruction? place with
  | none => True
  | some .accept => ∃ t ∈ front.threads.toList, t.place = place
  | some (.read _ _) => ∃ t ∈ front.threads.toList, t.place = place
  | some (.check condition next) =>
    condition.holds before after = true → front.isVisited next = true
  | some (.save _ next) => front.isVisited next = true
  | some (.fork first second) => front.isVisited first = true ∧ front.isVisited second = true

theorem Front.Closes.mono {front result : Front} {start : Nat}
    (h : front.Closes p before after place) (hextends : front.Extends p start result) :
    result.Closes p before after place := by
  obtain ⟨ts, hts, -⟩ := hextends.exists_append
  have hthread : (∃ t ∈ front.threads.toList, t.place = place) →
      ∃ t ∈ result.threads.toList, t.place = place := by
    rintro ⟨t, ht, hplace⟩
    exact ⟨t, hts ▸ List.mem_append_left ts ht, hplace⟩
  unfold Closes at h ⊢
  split at h
  · trivial
  · exact hthread h
  · exact hthread h
  · exact fun hholds => hextends.isVisited (h hholds)
  · exact hextends.isVisited h
  · exact ⟨hextends.isVisited h.1, hextends.isVisited h.2⟩

/-- A thread that waits closes its place. -/
theorem Front.closes_of_isWaiting {front : Front} (hwaits : p.IsWaiting place)
    (hthread : ∃ t ∈ front.threads.toList, t.place = place) :
    front.Closes p before after place := by
  rw [Closes]
  rcases hwaits with hi | ⟨chars, next, hi⟩
  · rw [hi]
    exact hthread
  · rw [hi]
    exact hthread

/-- A front closes all places that it has visited and another one has not. -/
def Front.ClosesMore (p : Program) (before after : Option Char) (front result : Front) : Prop :=
  ∀ place, result.isVisited place = true →
    front.isVisited place = true ∨ result.Closes p before after place

/-- A place that is closed after it has been visited adds to what is closed. -/
theorem Front.ClosesMore.of_visit {front result : Front}
    (place : Nat) (h : (front.visit place).ClosesMore p before after result)
    (hplace : result.Closes p before after place) :
    front.ClosesMore p before after result := by
  intro place' hplace'
  rcases h place' hplace' with hbefore | hclosed
  · rw [Front.isVisited_visit, Bool.or_eq_true, decide_eq_true_eq] at hbefore
    rcases hbefore with rfl | hbefore
    · exact Or.inr hplace
    · exact Or.inl hbefore
  · exact Or.inr hclosed

/-- What is closed stays closed while a front is extended. -/
theorem Front.ClosesMore.trans {front middle result : Front} {start : Nat}
    (h : front.ClosesMore p before after middle) (h' : middle.ClosesMore p before after result)
    (hextends : middle.Extends p start result) : front.ClosesMore p before after result := by
  intro place hplace
  rcases h' place hplace with hmiddle | hclosed
  · exact (h place hmiddle).imp_right fun hclosed => hclosed.mono hextends
  · exact Or.inr hclosed

/-- **The bound on spreading is never reached**: every place on the way is closed in the
end. -/
theorem closesMore_spread (p : Program) (before after : Option Char) (position : Nat)
    {n : Nat} (t : Thread) {front : Front} (hn : front.unvisited < n) :
    (p.spread before after position n t front).isVisited t.place = true ∧
      front.ClosesMore p before after (p.spread before after position n t front) := by
  induction n generalizing t front with
  | zero => exact absurd hn (Nat.not_lt_zero _)
  | succ n ih =>
    rw [spread]
    split
    · rename_i hvisited
      exact ⟨hvisited, fun _ h => Or.inl h⟩
    rename_i hfresh
    -- the place was not visited before, so the bound goes down with what is left to visit
    have hunvisited := Front.unvisited_visit (Bool.eq_false_iff.mpr hfresh)
    have hhere : (front.visit t.place).isVisited t.place = true := by
      rw [Front.isVisited_visit, decide_eq_true rfl, Bool.true_or]
    have hkept : (front.visit t.place).ClosesMore p before after (front.visit t.place) :=
      fun _ h => Or.inl h
    have hlt : (front.visit t.place).unvisited < n := by omega
    have hextends (u : Thread) (fr : Front) :=
      (p.spreads_spread before after position n u fr).extends
    split
    · rename_i hi
      exact ⟨hhere, hkept.of_visit t.place (by rw [Front.Closes, hi]; trivial)⟩
    · rename_i first second hi
      obtain ⟨hfirst, hmore⟩ := ih { t with place := first } hlt
      have hfirst' := hextends { t with place := first } (front.visit t.place)
      -- the second way starts in the front that the first one leaves
      obtain ⟨hsecond, hmore'⟩ := ih { t with place := second }
        (Nat.lt_of_le_of_lt hfirst'.unvisited_le hlt)
      have hsecond' := hextends { t with place := second }
        (p.spread before after position n { t with place := first } (front.visit t.place))
      refine ⟨hsecond'.isVisited (hfirst'.isVisited hhere),
        (hmore.trans hmore' hsecond').of_visit t.place ?_⟩
      rw [Front.Closes, hi]
      exact ⟨hsecond'.isVisited hfirst, hsecond⟩
    · rename_i slot next hi
      obtain ⟨hnext, hmore⟩ :=
        ih { t with place := next, saved := (slot, position) :: t.saved } hlt
      refine ⟨(hextends _ _).isVisited hhere, hmore.of_visit t.place ?_⟩
      rw [Front.Closes, hi]
      exact hnext
    · rename_i condition next hi
      split
      · obtain ⟨hnext, hmore⟩ := ih { t with place := next } hlt
        refine ⟨(hextends _ _).isVisited hhere, hmore.of_visit t.place ?_⟩
        rw [Front.Closes, hi]
        exact fun _ => hnext
      · rename_i hholds
        refine ⟨hhere, hkept.of_visit t.place ?_⟩
        rw [Front.Closes, hi]
        exact fun h => absurd h hholds
    · rename_i i hfork hsave hcheck hi
      have hpush : (front.visit t.place).ClosesMore p before after
          ((front.visit t.place).push t) := fun _ h => Or.inl h
      exact ⟨hhere, hpush.of_visit t.place (Front.closes_of_isWaiting
        (isWaiting_of_ne hi hfork hsave hcheck) ⟨t, by simp, rfl⟩)⟩

/-! ### Live threads -/

/-- A live place has an instruction. -/
theorem IsLive.instruction_ne_none (h : p.IsLive before s place) :
    p.instruction? place ≠ none := by
  obtain ⟨n, w, rest, goal, -, hruns, hgoal⟩ := h
  cases hruns with
  | refl => simp [hgoal]
  | read hi => simp [hi]
  | first hi => simp [hi]
  | second hi => simp [hi]
  | save hi => simp [hi]
  | check hi => simp [hi]

/-- **From a live place that has been visited, a live thread has been come to**, if whatever
live place has been visited is closed. -/
theorem exists_live_of_closes {front : Front} {n goal : Nat} {w rest : Text}
    (hclosed : ∀ place, p.IsLive before (w ++ rest) place → front.isVisited place = true →
      front.Closes p before (w ++ rest).head? place)
    (hruns : p.Runs n before place w rest goal) (hgoal : p.instruction? goal = some .accept)
    (hvisited : front.isVisited place = true) :
    ∃ t ∈ front.threads.toList, p.IsLive before (w ++ rest) t.place := by
  have hlive : p.IsLive before (w ++ rest) place := ⟨n, w, rest, goal, rfl, hruns, hgoal⟩
  have hcloses := hclosed place hlive hvisited
  rw [Front.Closes] at hcloses
  induction hruns with
  | refl =>
    rw [hgoal] at hcloses
    obtain ⟨t, ht, hplace⟩ := hcloses
    exact ⟨t, ht, hplace ▸ hlive⟩
  | read hi hc hruns =>
    rw [hi] at hcloses
    obtain ⟨t, ht, hplace⟩ := hcloses
    exact ⟨t, ht, hplace ▸ hlive⟩
  | first hi hruns ih =>
    rw [hi] at hcloses
    have hnext : p.IsLive _ _ _ := ⟨_, _, _, _, rfl, hruns, hgoal⟩
    exact ih hclosed hgoal hcloses.1 hnext (hclosed _ hnext hcloses.1)
  | second hi hruns ih =>
    rw [hi] at hcloses
    have hnext : p.IsLive _ _ _ := ⟨_, _, _, _, rfl, hruns, hgoal⟩
    exact ih hclosed hgoal hcloses.2 hnext (hclosed _ hnext hcloses.2)
  | save hi hruns ih =>
    rw [hi] at hcloses
    have hnext : p.IsLive _ _ _ := ⟨_, _, _, _, rfl, hruns, hgoal⟩
    exact ih hclosed hgoal hcloses hnext (hclosed _ hnext hcloses)
  | check hi hholds hruns ih =>
    rw [hi] at hcloses
    have hnext : p.IsLive _ _ _ := ⟨_, _, _, _, rfl, hruns, hgoal⟩
    exact ih hclosed hgoal (hcloses hholds) hnext (hclosed _ hnext (hcloses hholds))

/-- **A live thread that is added goes on as a live thread**, and what is added began where
it began. -/
theorem exists_live_add (position : Nat) (t : Thread) (hlive : p.IsLive before s t.place) :
    ∃ u us, p.live before s (p.add before s.head? position t p.emptyFront).threads.toList =
      u :: us ∧ u.start = t.start := by
  have hfresh {place : Nat} (h : p.IsLive before s place) :
      p.emptyFront.isVisited place = false := by
    rw [Front.isVisited, visited_emptyFront h.instruction_ne_none, Option.getD_some]
  have hbound : p.emptyFront.unvisited < p.code.size + 1 := by
    rw [Front.unvisited, emptyFront, Array.toList_replicate, List.count_replicate_self]
    exact Nat.lt_succ_self _
  obtain ⟨hvisited, hmore⟩ := p.closesMore_spread before s.head? position t hbound
  obtain ⟨n, w, rest, goal, rfl, hruns, hgoal⟩ := hlive
  -- no live place was visited before, so all that are visited now are closed
  obtain ⟨u, hu, hulive⟩ := exists_live_of_closes
    (fun place hplace h => (hmore place h).resolve_left (by simp [hfresh hplace]))
    hruns hgoal hvisited
  have hmem := mem_live.mpr ⟨hu, hulive⟩
  obtain ⟨ts, hts, hall⟩ :=
    (p.spreads_spread before (w ++ rest).head? position (p.code.size + 1) t
      p.emptyFront).extends.exists_append
  obtain ⟨first, others, hfirst⟩ := List.exists_cons_of_ne_nil (List.ne_nil_of_mem hmem)
  refine ⟨first, others, hfirst, (hall first ?_).2⟩
  have hfirst' := (mem_live.mp (hfirst ▸ List.mem_cons_self (a := first))).1
  rw [hts] at hfirst'
  exact hfirst'

/-- What a step of the search adds, it adds after the threads that are there. -/
theorem exists_append_stepThreads (p : Program) (c : Char) (after : Option Char)
    (position : Nat) (ts : List Thread) (front : Front) (best : Option Hit) :
    ∃ us, (p.stepThreads c after position ts front best).1.threads.toList =
      front.threads.toList ++ us ∧ ∀ u ∈ us, p.IsWaiting u.place := by
  induction ts generalizing front with
  | nil => exact ⟨[], (List.append_nil _).symm, by simp⟩
  | cons t ts ih =>
    rw [stepThreads]
    split
    · exact ⟨[], (List.append_nil _).symm, by simp⟩
    · rename_i chars next hi
      split
      · obtain ⟨us, hus, hall⟩ := (p.spreads_spread (some c) after (position + 1)
          (p.code.size + 1) { t with place := next } front).extends.exists_append
        obtain ⟨vs, hvs, hall'⟩ := ih (p.add (some c) after (position + 1)
          { t with place := next } front)
        refine ⟨us ++ vs, ?_, ?_⟩
        · rw [hvs, add, hus, List.append_assoc]
        · exact List.forall_mem_append.mpr ⟨fun u hu => (hall u hu).1, hall'⟩
      · exact ih front
    · exact ih front

theorem exists_append_begun (p : Program) (before after : Option Char) (position : Nat)
    (best : Option Hit) (front : Front) :
    ∃ us, (p.begun before after position best front).threads.toList =
      front.threads.toList ++ us ∧ ∀ u ∈ us, p.IsWaiting u.place := by
  rw [begun]
  split
  · obtain ⟨us, hus, hall⟩ :=
      (p.spreads_spread before after position (p.code.size + 1) ⟨p.start, position, []⟩
        front).extends.exists_append
    exact ⟨us, hus, fun u hu => (hall u hu).1⟩
  · exact ⟨[], (List.append_nil _).symm, by simp⟩

/-- **The first live thread leads to the match**, if there is one. -/
theorem exists_searchFrom_of_live {front : Front} {best : Option Hit} {t : Thread}
    {ts : List Thread}
    (hwaits : ∀ u ∈ (p.begun before s.head? position best front).threads.toList,
      p.IsWaiting u.place)
    (hlive : p.live before s (p.begun before s.head? position best front).threads.toList =
      t :: ts) :
    ∃ h, p.searchFrom before position s front best = some h ∧ h.start = t.start := by
  induction s generalizing before position front best t ts with
  | nil =>
    have hmem := mem_live.mp (hlive ▸ List.mem_cons_self (a := t))
    have haccept : p.instruction? t.place = some .accept := by
      rcases hwaits t hmem.1 with hi | ⟨chars, next, hi⟩
      · exact hi
      · obtain ⟨c, s, hs, -⟩ := (isLive_iff hi).mp hmem.2
        cases hs
    rw [List.head?_nil] at hlive
    rw [searchFrom_nil, acceptAtEnd_live before, hlive, acceptAtEnd, haccept]
    exact ⟨_, rfl, rfl⟩
  | cons c s ih =>
    rw [List.head?_cons] at hlive hwaits
    have hmem := mem_live.mp (hlive ▸ List.mem_cons_self (a := t))
    obtain ⟨hfront, hbest⟩ := stepThreads_live before position
      (p.begun before (some c) position best front).threads.toList
      (.refl p (some c) s p.emptyFront) best
    rw [hlive, stepThreads] at hfront hbest
    rw [searchFrom_advance]
    rcases hwaits t hmem.1 with hi | ⟨chars, next, hi⟩
    · -- it accepts here, and the more preferred threads are dead
      rw [hi] at hfront hbest
      have hnone : p.live (some c) s (p.advance before position c s front best).1.threads.toList
          = [] := hfront.threads
      exact ⟨_, (congrArg _ hbest).trans (searchFrom_of_dead _ hnone), rfl⟩
    · -- it reads the character, and what it becomes comes first
      rw [hi] at hfront hbest
      obtain ⟨d, s', hs, hc, hnext⟩ := (isLive_iff hi).mp hmem.2
      obtain ⟨rfl, rfl⟩ := List.cons.inj hs
      simp only [hc, if_true] at hfront hbest
      obtain ⟨u, us, hu, hstart⟩ := exists_live_add (position + 1) { t with place := next } hnext
      obtain ⟨vs, hvs, -⟩ := p.exists_append_stepThreads c s.head? position ts
        (p.add (some c) s.head? (position + 1) { t with place := next } p.emptyFront) best
      obtain ⟨xs, hxs, hxswait⟩ := p.exists_append_begun (some c) s.head? (position + 1)
        (p.advance before position c s front best).2 (p.advance before position c s front best).1
      obtain ⟨ys, hys, hyswait⟩ := p.exists_append_stepThreads c s.head? position
        (p.begun before (some c) position best front).threads.toList p.emptyFront best
      have hnextwaits : ∀ v ∈ (p.begun (some c) s.head? (position + 1)
          (p.advance before position c s front best).2
          (p.advance before position c s front best).1).threads.toList, p.IsWaiting v.place := by
        rw [hxs, advance, hys]
        exact List.forall_mem_append.mpr ⟨hyswait, hxswait⟩
      have hnextlive : p.live (some c) s (p.begun (some c) s.head? (position + 1)
          (p.advance before position c s front best).2
          (p.advance before position c s front best).1).threads.toList =
            u :: (us ++ p.live (some c) s (vs ++ xs)) := by
        rw [hxs, live_append, advance, hfront.threads, hvs, live_append, hu, live_append,
          List.append_assoc, List.cons_append]
      obtain ⟨h, hh, hhstart⟩ := ih hnextwaits hnextlive
      exact ⟨h, hh, hhstart.trans hstart⟩

/-! ### Where a match begins -/

/-- **A text that the pattern begins with is matched there.** -/
theorem exists_search_of_isLive (position : Nat) (hlive : p.IsLive before s p.start) :
    ∃ h, p.search before position s = some h ∧ h.start = position := by
  obtain ⟨u, us, hu, hstart⟩ := exists_live_add position ⟨p.start, position, []⟩ hlive
  obtain ⟨ts, hts, hall⟩ := p.exists_append_begun before s.head? position none p.emptyFront
  obtain ⟨h, hh, hhstart⟩ : ∃ h, p.searchFrom before position s p.emptyFront none = some h ∧
      h.start = u.start := exists_searchFrom_of_live (hts ▸ hall) hu
  exact ⟨h, hh, hhstart.trans hstart⟩

/-- **A text that the pattern does not begin with is searched from the next character on.** -/
theorem search_of_not_isLive {c : Char} (hdead : ¬p.IsLive before (c :: s) p.start) :
    p.search before position (c :: s) = p.search (some c) (position + 1) s := by
  have hspread := (p.spreads_spread before (c :: s).head? position (p.code.size + 1)
    ⟨p.start, position, []⟩ p.emptyFront).sameLive_of_dead hdead
  obtain ⟨hfront, hbest⟩ := advance_of_dead position none hspread.threads
  rw [search, searchFrom_advance, hbest]
  exact searchFrom_congr hfront none

/-- **A search may as well begin where its match does.** -/
theorem search_drop {h : Hit} {k : Nat} (hh : p.search before position s = some h)
    (hk : h.start = position + k) :
    p.search (lastOr before (s.take k)) (position + k) (s.drop k) = some h := by
  induction k generalizing before position s with
  | zero => exact hh
  | succ k ih =>
    have hrun := isRun_of_search hh
    cases s with
    | nil =>
      have hle := hrun.start_le_stop.trans hrun.stop_le
      rw [List.length_nil] at hle
      omega
    | cons c s =>
      have hdead : ¬p.IsLive before (c :: s) p.start := by
        intro hlive
        obtain ⟨h', hh', hstart'⟩ := exists_search_of_isLive position hlive
        obtain rfl := Option.some.inj (hh.symm.trans hh')
        omega
      rw [search_of_not_isLive hdead] at hh
      rw [List.take_succ_cons, List.drop_succ_cons, Text.lastOr_cons, ← Nat.add_assoc,
        Nat.add_right_comm]
      exact ih hh (by omega)

end Program

end GnuLint
