import GnuLint.Proofs.Pattern.Run

/-!
# The language of a pattern

What an expression matches can be told without a program: it depends on the text, on the
character before it and on the text after it (`GnuLint.Regex.Matches`). Which of several
matches is preferred is not told.

Whatever is found in a text is in the language (`GnuLint.Pattern.matches_of_find?`). The code of
an expression is written for a place to go on at, and what is to be shown of it is that every
run that comes to an end passes through this place, after it has read a match
(`GnuLint.Program.Passes`). This composes: the code of a sequence is the code of its parts, one
after the other. For a loop, the turns are taken off a run one by one, and the run gets shorter
each time, since a turn begins with a choice (`GnuLint.Program.passes_loop`).
-/

namespace GnuLint

open Text (lastOr)

/-! ### Expressions and what they match -/

namespace Regex

/-- A relation between a text, the character before it and the text after it. -/
abbrev Language := (before : Option Char) → (s after : Text) → Prop

namespace Language

variable {M M' : Language} {before : Option Char} {s t after : Text} {m n : Nat}

/-- The empty text. -/
def nothing : Language := fun _ s _ => s = []

/-- A text of one language and then one of another one. -/
def then' (M M' : Language) : Language := fun before s after =>
  ∃ t u, s = t ++ u ∧ M before t (u ++ after) ∧ M' (lastOr before t) u after

/-- A number of texts, one after the other. -/
def times (M : Language) : Nat → Language
  | 0 => nothing
  | n + 1 => M.then' (M.times n)

/-- Up to a number of texts, if there is a bound, but at least some. -/
def repeated (M : Language) (least : Nat) (most : Option Nat) : Language := fun before s after =>
  ∃ n, least ≤ n ∧ (∀ m ∈ most, n ≤ max least m) ∧ M.times n before s after

theorem then'_assoc {M₁ M₂ M₃ : Language} :
    ((M₁.then' M₂).then' M₃) before s after ↔ (M₁.then' (M₂.then' M₃)) before s after := by
  constructor
  · rintro ⟨-, w, rfl, ⟨t, v, rfl, h₁, h₂⟩, h₃⟩
    rw [Text.lastOr_append] at h₃
    refine ⟨t, v ++ w, List.append_assoc t v w, ?_, v, w, rfl, h₂, h₃⟩
    rwa [List.append_assoc]
  · rintro ⟨t, -, rfl, h₁, v, w, rfl, h₂, h₃⟩
    rw [List.append_assoc] at h₁
    refine ⟨t ++ v, w, (List.append_assoc t v w).symm, ⟨t, v, rfl, h₁, h₂⟩, ?_⟩
    rwa [Text.lastOr_append]

/-- One text after no text. -/
theorem nothing_then' (h : (nothing.then' M) before s after) : M before s after := by
  obtain ⟨-, u, rfl, rfl, hu⟩ := h
  exact hu

theorem then'_mono_right (h : (M.then' M') before s after) {M₃ : Language}
    (hM : ∀ before s after, M' before s after → M₃ before s after) :
    (M.then' M₃) before s after := by
  obtain ⟨t, u, rfl, ht, hu⟩ := h
  exact ⟨t, u, rfl, ht, hM _ _ _ hu⟩

/-- Some texts after some texts. -/
theorem times_add (h : ((M.times m).then' (M.times n)) before s after) :
    M.times (m + n) before s after := by
  induction m generalizing before s after with
  | zero =>
    rw [Nat.zero_add]
    exact nothing_then' h
  | succ m ih =>
    rw [Nat.add_right_comm]
    exact then'_mono_right (then'_assoc.mp h) fun _ _ _ => ih

/-- A text after some texts. -/
theorem times_succ (h : ((M.times n).then' M) before s after) :
    M.times (n + 1) before s after := by
  refine times_add (then'_mono_right h fun before s after hs => ?_)
  exact ⟨s, [], (List.append_nil s).symm, hs, rfl⟩

end Language

/-- **What an expression matches** between the character before it and the text after it. -/
def Matches : Regex → Language
  | empty => .nothing
  | set chars => fun _ s _ => ∃ c, s = [c] ∧ chars.mem c = true
  | look condition => fun before s after => s = [] ∧ condition.holds before after.head? = true
  | seq r r' => r.Matches.then' r'.Matches
  | alt r r' => fun before s after => r.Matches before s after ∨ r'.Matches before s after
  | repetition least most _ r => r.Matches.repeated least most
  | group _ r => r.Matches

end Regex

open Regex (Language)

namespace Program

variable {p : Program} {M M' : Language} {before : Option Char} {s after : Text} {n : Nat}
  {place first middle next goal : Nat}

/-! ### Passing through a place -/

/-- **What an instruction does** in a run that goes on from there. -/
def Goes (p : Program) (n : Nat) (before : Option Char) (s after : Text) (goal : Nat) :
    Instruction → Prop
  | .accept => False
  | .read chars next => ∃ c t, s = c :: t ∧ chars.mem c = true ∧
      p.Runs n (some c) next t after goal
  | .check condition next => condition.holds before (s ++ after).head? = true ∧
      p.Runs n before next s after goal
  | .save _ next => p.Runs n before next s after goal
  | .fork first second =>
      p.Runs n before first s after goal ∨ p.Runs n before second s after goal

/-- A run that ends elsewhere begins with the instruction of its first place. -/
theorem Runs.exists_goes {i : Instruction} (h : p.Runs n before place s after goal)
    (hi : p.instruction? place = some i) (hne : goal ≠ place) :
    ∃ m, n = m + 1 ∧ p.Goes m before s after goal i := by
  cases h with
  | refl => exact absurd rfl hne
  | read hi' hc hruns =>
    obtain rfl := Option.some.inj (hi.symm.trans hi')
    exact ⟨_, rfl, _, _, rfl, hc, hruns⟩
  | first hi' hruns =>
    obtain rfl := Option.some.inj (hi.symm.trans hi')
    exact ⟨_, rfl, Or.inl hruns⟩
  | second hi' hruns =>
    obtain rfl := Option.some.inj (hi.symm.trans hi')
    exact ⟨_, rfl, Or.inr hruns⟩
  | save hi' hruns =>
    obtain rfl := Option.some.inj (hi.symm.trans hi')
    exact ⟨_, rfl, hruns⟩
  | check hi' hholds hruns =>
    obtain rfl := Option.some.inj (hi.symm.trans hi')
    exact ⟨_, rfl, hholds, hruns⟩

/-- **Runs from one place pass through another one**, after they have read a match: every run
that accepts in the end does, and it is no longer from there. -/
def Passes (p : Program) (M : Language) (first next : Nat) : Prop :=
  ∀ n before s after goal, p.instruction? goal = some .accept →
    p.Runs n before first s after goal →
    ∃ m t u, m ≤ n ∧ s = t ++ u ∧ M before t (u ++ after) ∧
      p.Runs m (lastOr before t) next u after goal

namespace Passes

theorem refl (p : Program) (next : Nat) : p.Passes .nothing next next :=
  fun n _ s _ _ _ h => ⟨n, [], s, Nat.le_refl n, rfl, rfl, h⟩

theorem mono (h : p.Passes M first next)
    (hM : ∀ before s after, M before s after → M' before s after) : p.Passes M' first next := by
  intro n before s after goal hgoal hruns
  obtain ⟨m, t, u, hle, hs, hmatch, hrest⟩ := h n before s after goal hgoal hruns
  exact ⟨m, t, u, hle, hs, hM _ _ _ hmatch, hrest⟩

theorem trans (h : p.Passes M first middle) (h' : p.Passes M' middle next) :
    p.Passes (M.then' M') first next := by
  intro n before s after goal hgoal hruns
  obtain ⟨m, t, u, hle, rfl, hmatch, hmore⟩ := h n before s after goal hgoal hruns
  obtain ⟨k, v, w, hle', rfl, hmatch', hrest⟩ := h' m _ u after goal hgoal hmore
  refine ⟨k, t ++ v, w, Nat.le_trans hle' hle, (List.append_assoc t v w).symm,
    ⟨t, v, rfl, ?_, hmatch'⟩, ?_⟩
  · rwa [List.append_assoc] at hmatch
  · rwa [Text.lastOr_append]

/-- A run that accepts does not end at a place with another instruction. -/
theorem exists_goes {i : Instruction} (hi : p.instruction? first = some i) (hne : i ≠ .accept)
    (hgoal : p.instruction? goal = some .accept) (h : p.Runs n before first s after goal) :
    ∃ m, n = m + 1 ∧ p.Goes m before s after goal i := by
  refine h.exists_goes hi fun heq => hne ?_
  rw [heq, hi] at hgoal
  exact Option.some.inj hgoal

theorem read {chars : CharSet} (hi : p.instruction? first = some (.read chars next)) :
    p.Passes (Regex.set chars).Matches first next := by
  intro n before s after goal hgoal hruns
  obtain ⟨m, rfl, c, t, rfl, hc, hrest⟩ := exists_goes hi (by simp) hgoal hruns
  exact ⟨m, [c], t, Nat.le_succ m, rfl, ⟨c, rfl, hc⟩, hrest⟩

theorem check {condition : Look} (hi : p.instruction? first = some (.check condition next)) :
    p.Passes (Regex.look condition).Matches first next := by
  intro n before s after goal hgoal hruns
  obtain ⟨m, rfl, hholds, hrest⟩ := exists_goes hi (by simp) hgoal hruns
  exact ⟨m, [], s, Nat.le_succ m, rfl, ⟨rfl, hholds⟩, hrest⟩

theorem save {slot : Nat} (hi : p.instruction? first = some (.save slot middle))
    (h : p.Passes M middle next) : p.Passes M first next := by
  intro n before s after goal hgoal hruns
  obtain ⟨m, rfl, hmore⟩ := exists_goes hi (by simp) hgoal hruns
  obtain ⟨k, t, u, hle, hs, hmatch, hrest⟩ := h m before s after goal hgoal hmore
  exact ⟨k, t, u, Nat.le_succ_of_le hle, hs, hmatch, hrest⟩

theorem fork {second : Nat} (hi : p.instruction? place = some (.fork first second))
    (h : p.Passes M first next) (h' : p.Passes M second next) : p.Passes M place next := by
  intro n before s after goal hgoal hruns
  obtain ⟨m, rfl, hmore⟩ := exists_goes hi (by simp) hgoal hruns
  rcases hmore with hmore | hmore
  · obtain ⟨k, t, u, hle, hs, hmatch, hrest⟩ := h m before s after goal hgoal hmore
    exact ⟨k, t, u, Nat.le_succ_of_le hle, hs, hmatch, hrest⟩
  · obtain ⟨k, t, u, hle, hs, hmatch, hrest⟩ := h' m before s after goal hgoal hmore
    exact ⟨k, t, u, Nat.le_succ_of_le hle, hs, hmatch, hrest⟩

/-- Which way a loop prefers does not matter here. -/
theorem loopFork {greedy : Bool} {body : Nat}
    (hi : p.instruction? place = some (Program.loopFork greedy body middle))
    (h : p.Passes M body next) (h' : p.Passes M middle next) : p.Passes M place next := by
  rw [Program.loopFork] at hi
  split at hi
  · exact fork hi h h'
  · exact fork hi h' h

end Passes

/-- **A loop passes through its end** after any number of turns. -/
theorem passes_loop {greedy : Bool} {loop : Nat}
    (hi : p.instruction? loop = some (Program.loopFork greedy first next))
    (h : p.Passes M first loop) : p.Passes (M.repeated 0 none) loop next := by
  intro n before s after goal hgoal hruns
  induction n using Nat.strongRecOn generalizing before s with
  | ind n ih =>
    have hturn : ∃ m, m < n ∧
        (p.Runs m before first s after goal ∨ p.Runs m before next s after goal) := by
      rw [Program.loopFork] at hi
      split at hi
      · obtain ⟨m, rfl, hmore⟩ := Passes.exists_goes hi (by simp) hgoal hruns
        exact ⟨m, Nat.lt_succ_self m, hmore⟩
      · obtain ⟨m, rfl, hmore⟩ := Passes.exists_goes hi (by simp) hgoal hruns
        exact ⟨m, Nat.lt_succ_self m, hmore.symm⟩
    obtain ⟨m, hlt, hmore | hmore⟩ := hturn
    · -- one more turn, and what is left of the run is shorter
      obtain ⟨k, t, u, hle, rfl, hmatch, hrest⟩ := h m before s after goal hgoal hmore
      obtain ⟨l, v, w, hle', rfl, ⟨turns, -, -, hturns⟩, hlast⟩ :=
        ih k (Nat.lt_of_le_of_lt hle hlt) _ u hrest
      refine ⟨l, t ++ v, w, by omega, (List.append_assoc t v w).symm,
        ⟨turns + 1, Nat.zero_le _, by simp, t, v, rfl, ?_, hturns⟩, ?_⟩
      · rwa [List.append_assoc] at hmatch
      · rwa [Text.lastOr_append]
    · exact ⟨m, [], s, Nat.le_of_lt hlt, rfl, ⟨0, Nat.le_refl 0, by simp, rfl⟩, hmore⟩

/-! ### Writing code -/

/-- Code is written at the end of other code, and this stays what it is. -/
structure Grows (code code' : Code) : Prop where
  size_le : code.size ≤ code'.size
  getElem?_eq {i : Nat} : i < code.size → code'[i]? = code[i]?

namespace Grows

variable {code code' code'' : Code}

theorem refl (code : Code) : Grows code code := ⟨Nat.le_refl _, fun _ => rfl⟩

theorem trans (h : Grows code code') (h' : Grows code' code'') : Grows code code'' :=
  ⟨Nat.le_trans h.size_le h'.size_le, fun hi =>
    (h'.getElem?_eq (Nat.lt_of_lt_of_le hi h.size_le)).trans (h.getElem?_eq hi)⟩

theorem push (code : Code) (i : Instruction) : Grows code (code.push i) := by
  refine ⟨?_, fun {j} hj => ?_⟩
  · rw [Array.size_push]
    exact Nat.le_succ _
  · rw [Array.getElem?_push, if_neg (Nat.ne_of_lt hj)]

/-- An instruction that has been written may still be filled in. -/
theorem fill {place : Nat} (h : Grows code code') (hplace : code.size ≤ place)
    (i : Instruction) : Grows code (code'.setIfInBounds place i) := by
  refine ⟨?_, fun {j} hj => ?_⟩
  · rw [Array.size_setIfInBounds]
    exact h.size_le
  · rw [Array.getElem?_setIfInBounds_ne (by omega)]
    exact h.getElem?_eq hj

end Grows

/-- A program has the code from a place on. -/
def Has (p : Program) (low : Nat) (code : Code) : Prop :=
  ∀ i, low ≤ i → i < code.size → p.instruction? i = code[i]?

namespace Has

variable {code code' : Code} {low : Nat}

theorem mono {low' : Nat} (h : p.Has low code) (hlow : low ≤ low') : p.Has low' code :=
  fun i hi hlt => h i (Nat.le_trans hlow hi) hlt

/-- What is in the code before more is written is in the code afterwards. -/
theorem of_grows (h : p.Has low code') (hgrows : Grows code code') : p.Has low code :=
  fun i hi hlt => (h i hi (Nat.lt_of_lt_of_le hlt hgrows.size_le)).trans (hgrows.getElem?_eq hlt)

/-- The last instruction that has been written is in the program. -/
theorem instruction?_push {i : Instruction} (h : p.Has low (code.push i)) (hlow : low ≤ code.size) :
    p.instruction? code.size = some i := by
  have hsize : code.size < (code.push i).size := by
    rw [Array.size_push]
    exact Nat.lt_succ_self _
  rw [h code.size hlow hsize, Array.getElem?_push_size]

end Has

/-- **A piece of code is written for a language**: it adds to the code, and a program that has
what is added passes through the place to go on at after it has read a match. -/
structure Writes (body : Nat → Code → Code × Nat) (M : Language) : Prop where
  grows (next : Nat) (code : Code) : Grows code (body next code).1
  passes {p : Program} (next : Nat) (code : Code) :
    p.Has code.size (body next code).1 → p.Passes M (body next code).2 next

namespace Writes

variable {body body' : Nat → Code → Code × Nat} {r : Regex}

theorem mono (h : Writes body M) (hM : ∀ before s after, M before s after → M' before s after) :
    Writes body M' :=
  ⟨h.grows, fun next code hp => (h.passes next code hp).mono hM⟩

theorem empty : Writes (compile .empty) Regex.empty.Matches :=
  ⟨fun _ code => .refl code, fun {p} next _ _ => .refl p next⟩

theorem set (chars : CharSet) : Writes (compile (.set chars)) (Regex.set chars).Matches :=
  ⟨fun _ code => .push code _, fun _ _ hp => .read (hp.instruction?_push (Nat.le_refl _))⟩

theorem look (condition : Look) :
    Writes (compile (.look condition)) (Regex.look condition).Matches :=
  ⟨fun _ code => .push code _, fun _ _ hp => .check (hp.instruction?_push (Nat.le_refl _))⟩

/-- Code is written from its end on, so the second part comes first. -/
theorem seq (h : Writes body M) (h' : Writes body' M') :
    Writes (fun next code => body (body' next code).2 (body' next code).1) (M.then' M') := by
  refine ⟨fun next code => (h'.grows next code).trans (h.grows _ _), fun {p} next code hp => ?_⟩
  have hfirst := h.passes (body' next code).2 (body' next code).1
    (hp.mono (h'.grows next code).size_le)
  exact hfirst.trans (h'.passes next code (hp.of_grows (h.grows _ _)))

theorem alt (h : Writes body M) (h' : Writes body' M) :
    Writes (fun next code =>
      emit (.fork (body next (body' next code).1).2 (body' next code).2)
        (body next (body' next code).1).1) M := by
  refine ⟨fun next code => ((h'.grows next code).trans (h.grows _ _)).trans (.push _ _),
    fun {p} next code hp => ?_⟩
  -- the second alternative is written first, and the fork last
  have hbefore := hp.of_grows (Grows.push _ _)
  have hgrows := (h'.grows next code).trans (h.grows next (body' next code).1)
  refine .fork (hp.instruction?_push hgrows.size_le) ?_ ?_
  · exact h.passes next _ (hbefore.mono (h'.grows next code).size_le)
  · exact h'.passes next code (hbefore.of_grows (h.grows _ _))

theorem group (h : Writes body M) (opening closing : Nat) :
    Writes (fun next code =>
      emit (.save opening (body code.size (code.push (.save closing next))).2)
        (body code.size (code.push (.save closing next))).1) M := by
  refine ⟨fun next code => ((Grows.push code _).trans (h.grows _ _)).trans (.push _ _),
    fun {p} next code hp => ?_⟩
  have hclosing := Grows.push code (.save closing next)
  have hinner := h.grows code.size (code.push (.save closing next))
  have hbefore := hp.of_grows (Grows.push _ _)
  have hclose := (hbefore.of_grows hinner).instruction?_push (Nat.le_refl _)
  have hbody := (h.passes _ _ (hbefore.mono hclosing.size_le)).trans
    (.save hclose (.refl p next))
  refine .save (hp.instruction?_push (hclosing.trans hinner).size_le) (hbody.mono ?_)
  rintro before s after ⟨t, u, rfl, hmatch, rfl⟩
  rwa [List.append_nil]

/-- The code of a loop: a turn comes back to the loop, and any number of turns comes to its
end. -/
theorem loop (h : Writes body M) {p : Program} {greedy : Bool} {next : Nat} {code : Code}
    {placeholder : Instruction}
    (hp : p.Has code.size ((body code.size (code.push placeholder)).1.setIfInBounds code.size
      (loopFork greedy (body code.size (code.push placeholder)).2 next))) :
    p.instruction? code.size =
        some (loopFork greedy (body code.size (code.push placeholder)).2 next) ∧
      p.Passes M (body code.size (code.push placeholder)).2 code.size := by
  have hgrows := h.grows code.size (code.push placeholder)
  have hlt : code.size < (body code.size (code.push placeholder)).1.size := by
    have hle := hgrows.size_le
    rw [Array.size_push] at hle
    omega
  constructor
  · rw [hp code.size (Nat.le_refl _) (by rwa [Array.size_setIfInBounds]),
      Array.getElem?_setIfInBounds_self_of_lt hlt]
  · refine h.passes _ _ fun i hi hlt' => ?_
    rw [Array.size_push] at hi
    rw [hp i (by omega) (by rwa [Array.size_setIfInBounds]),
      Array.getElem?_setIfInBounds_ne (by omega)]

theorem onceOrMore (h : Writes body M) (greedy : Bool) :
    Writes (Program.onceOrMore body greedy) (M.repeated 1 none) := by
  refine ⟨fun next code => ?_, fun {p} next code hp => ?_⟩
  · exact ((Grows.push code _).trans (h.grows _ _)).fill (Nat.le_refl _) _
  · obtain ⟨hloop, hturn⟩ := h.loop hp
    refine (hturn.trans (passes_loop hloop hturn)).mono ?_
    rintro before s after ⟨t, u, rfl, ht, n, -, -, hu⟩
    exact ⟨n + 1, Nat.le_add_left 1 n, by simp, t, u, rfl, ht, hu⟩

theorem anyTimes (h : Writes body M) (greedy nullable : Bool) :
    Writes (Program.anyTimes body greedy nullable) (M.repeated 0 none) := by
  have hgrows (next : Nat) (code : Code) (i : Instruction) :=
    ((Grows.push code (.fork next next)).trans (h.grows code.size _)).fill (Nat.le_refl _) i
  cases nullable with
  | false =>
    refine ⟨fun next code => hgrows next code _, fun {p} next code hp => ?_⟩
    obtain ⟨hloop, hturn⟩ := h.loop hp
    exact passes_loop hloop hturn
  | true =>
    refine ⟨fun next code => (hgrows next code _).trans (.push _ _), fun {p} next code hp => ?_⟩
    obtain ⟨hloop, hturn⟩ := h.loop (hp.of_grows (Grows.push _ _))
    have hentry := hp.instruction?_push (hgrows next code _).size_le
    refine .loopFork hentry ((hturn.trans (passes_loop hloop hturn)).mono ?_)
      ((Passes.refl p next).mono ?_)
    · rintro before s after ⟨t, u, rfl, ht, n, -, -, hu⟩
      exact ⟨n + 1, Nat.zero_le _, by simp, t, u, rfl, ht, hu⟩
    · rintro before s after rfl
      exact ⟨0, Nat.le_refl 0, by simp, rfl⟩

theorem copies (h : Writes body M) (n : Nat) : Writes (Program.copies body n) (M.times n) := by
  induction n with
  | zero => exact ⟨fun _ code => .refl code, fun {p} next _ _ => .refl p next⟩
  | succ n ih => exact (ih.seq h).mono fun _ _ _ => Language.times_succ

/-- The code of some optional turns, each of which may go on at the end of all of them. -/
theorem upTo (h : Writes body M) (greedy : Bool) (out n next : Nat) (code : Code) :
    Grows code (Program.upTo body greedy out n next code).1 ∧
      ∀ {p : Program} {k : Nat}, p.Has code.size (Program.upTo body greedy out n next code).1 →
        p.Passes (M.repeated 0 (some k)) next out →
        p.Passes (M.repeated 0 (some (k + n))) (Program.upTo body greedy out n next code).2
          out := by
  induction n generalizing next code with
  | zero => exact ⟨.refl code, fun _ hnext => hnext⟩
  | succ n ih =>
    have hturn := h.grows next code
    have hentry := Grows.push (body next code).1 (loopFork greedy (body next code).2 out)
    obtain ⟨hgrows, hpasses⟩ := ih (body next code).1.size
      ((body next code).1.push (loopFork greedy (body next code).2 out))
    refine ⟨(hturn.trans hentry).trans hgrows, fun {p k} hp hnext => ?_⟩
    have hbefore := hp.of_grows hgrows
    have hbody := h.passes next code (hbefore.of_grows hentry)
    -- with this turn, one more turn is allowed of what comes before
    have hsum : k + (n + 1) = k + 1 + n := by omega
    rw [hsum]
    refine hpasses (hp.mono (hturn.trans hentry).size_le) ?_
    refine .loopFork (hbefore.instruction?_push hturn.size_le) ((hbody.trans hnext).mono ?_)
      ((Passes.refl p out).mono ?_)
    · rintro before s after ⟨t, u, rfl, ht, m, -, hle, hu⟩
      have hm := hle k rfl
      refine ⟨m + 1, Nat.zero_le _, fun bound hbound => ?_, t, u, rfl, ht, hu⟩
      obtain rfl := Option.some.inj hbound
      omega
    · rintro before s after rfl
      exact ⟨0, Nat.le_refl 0, fun _ _ => Nat.zero_le _, rfl⟩

theorem repetition (h : Writes (compile r) M) (least : Nat) (most : Option Nat) (greedy : Bool) :
    Writes (compile (.repetition least most greedy r)) (M.repeated least most) := by
  cases most with
  | none =>
    cases least with
    | zero => exact h.anyTimes greedy r.isNullable
    | succ n =>
      refine ((h.copies n).seq (h.onceOrMore greedy)).mono ?_
      rintro before s after ⟨t, u, rfl, ht, m, hm, -, hu⟩
      exact ⟨n + m, by omega, by simp, Language.times_add ⟨t, u, rfl, ht, hu⟩⟩
  | some most =>
    have hoptional := h.upTo greedy
    have hcopies := h.copies least
    refine ⟨fun next code => (hoptional next (most - least) next code).1.trans
      (hcopies.grows _ _), fun {p} next code hp => ?_⟩
    have hpass := (hoptional next (most - least) next code).2 (k := 0)
      (hp.of_grows (hcopies.grows _ _)) ((Passes.refl p next).mono ?_)
    · have hleast := hcopies.passes _ _
        (hp.mono (hoptional next (most - least) next code).1.size_le)
      refine (hleast.trans hpass).mono ?_
      rintro before s after ⟨t, u, rfl, ht, m, -, hle, hu⟩
      have hm : m ≤ max 0 (0 + (most - least)) := hle _ rfl
      refine ⟨least + m, by omega, fun bound hbound => ?_,
        Language.times_add ⟨t, u, rfl, ht, hu⟩⟩
      obtain rfl := Option.some.inj hbound
      omega
    · rintro before s after rfl
      exact ⟨0, Nat.le_refl 0, fun _ _ => Nat.zero_le _, rfl⟩

end Writes

/-- **The code of an expression is written for what the expression matches.** -/
theorem writes_compile (r : Regex) : Writes (compile r) r.Matches := by
  induction r with
  | empty => exact .empty
  | set chars => exact .set chars
  | look condition => exact .look condition
  | seq r r' ih ih' => exact ih.seq ih'
  | alt r r' ih ih' =>
    exact (ih.mono fun _ _ _ => Or.inl).alt (ih'.mono fun _ _ _ => Or.inr)
  | repetition least most greedy r ih => exact ih.repetition least most greedy
  | group index r ih => exact ih.group (2 * index) (2 * index + 1)

/-- The text is accepted where the code of an expression goes on. -/
theorem matches_of_runs {r : Regex} (h : (ofRegex r).Runs n before (ofRegex r).start s after goal)
    (hgoal : (ofRegex r).instruction? goal = some .accept) : r.Matches before s after := by
  have hwrites := writes_compile r
  have haccept : (ofRegex r).instruction? 0 = some .accept := by
    rw [instruction?]
    exact (hwrites.grows 0 #[.accept]).getElem?_eq Nat.zero_lt_one
  obtain ⟨m, t, u, -, rfl, hmatch, hrest⟩ :=
    hwrites.passes 0 #[.accept] (p := ofRegex r) (fun _ _ _ => rfl) n before s after goal hgoal h
  cases hrest with
  | refl => rwa [List.append_nil, ← List.nil_append after]
  | read hi => cases haccept.symm.trans hi
  | first hi => cases haccept.symm.trans hi
  | second hi => cases haccept.symm.trans hi
  | save hi => cases haccept.symm.trans hi
  | check hi => cases haccept.symm.trans hi

end Program

namespace Pattern

/-- **Whatever is found is in the language of the pattern.** -/
theorem matches_of_find? {p : Pattern} {s : Text} {o : Occurrence} (h : p.find? s = some o) :
    p.parsed.regex.Matches (lastOr none o.before) o.matched o.after := by
  obtain ⟨hit, hhit, rfl⟩ := Option.map_eq_some_iff.mp h
  obtain ⟨u, w, after, n, goal, rfl, hstart, hstop, hruns, hgoal⟩ :=
    Program.isRun_of_search hhit
  rw [p.program_eq] at hruns hgoal
  have hmatch := Program.matches_of_runs hruns hgoal
  rw [Nat.zero_add] at hstart hstop
  have htaken : hit.stop - hit.start = w.length := by
    rw [hstart, hstop, List.length_append]
    omega
  have hparts : occurrence (u ++ w ++ after) hit = ⟨u, w, after⟩ := by
    rw [occurrence, slice, htaken, hstart, List.append_assoc]
    simp only [List.take_left, List.drop_left]
  rwa [hparts]

end Pattern

end GnuLint
