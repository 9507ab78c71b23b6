import GnuLint.Pattern.Program

/-!
# Searching a text

A search runs a program along a text, once, keeping at each position the list of
**threads** that are alive, the most preferred one first. A thread is a place in the
program with the position where it began and the positions it remembers. Two threads
at the same place do the same from then on, so only the more preferred one is kept;
this bounds the threads by the size of the program, whatever the pattern.

While nothing has matched, one more thread is started at every position, less
preferred than the ones that began before it. When a thread accepts, the threads less
preferred than it are dropped, and the match stands unless a more preferred thread
accepts later. What is found is the match that begins first and, among those, the one
that the preferences of the pattern choose.

Positions are counted in characters, so the parts of the text before, in and after a
match are cut out of it by `List.take` and `List.drop` and always make up the text.
-/

namespace GnuLint

/-- A position remembered: the slot, and the count of characters before it. -/
abbrev Saved := List (Nat × Nat)

/-- A match: where it begins and ends, and the positions it remembers. -/
structure Hit where
  /-- The count of characters before the match. -/
  start : Nat
  /-- The count of characters before its end. -/
  stop : Nat
  /-- The positions remembered, the latest first. -/
  saved : Saved

namespace Hit

/-- The part of a match that a group remembers, as counts of characters before its two
ends; the number 0 stands for the whole match. -/
def group? (h : Hit) (index : Nat) : Option (Nat × Nat) :=
  if index = 0 then some (h.start, h.stop)
  else do
    let start ← h.saved.lookup (2 * index)
    let stop ← h.saved.lookup (2 * index + 1)
    return (start, stop)

end Hit

namespace Program

/-! ### Threads -/

/-- A run of the program that is still alive. -/
structure Thread where
  /-- The place of the next instruction. -/
  place : Nat
  /-- The position where the run began. -/
  start : Nat
  /-- The positions remembered, the latest first. -/
  saved : Saved

/-- The threads at a position, and which places have one. -/
structure Front where
  /-- The places that have been visited at this position. -/
  visited : Array Bool
  /-- The threads, the most preferred one first. -/
  threads : Array Thread

/-- The front without threads. -/
def emptyFront (p : Program) : Front := ⟨Array.replicate p.code.size false, #[]⟩

/-- **The front with one more thread**, followed through every instruction that reads
nothing. The bound counts instructions on the way; no way visits a place twice. -/
def spread (p : Program) (before after : Option Char) (position : Nat) :
    Nat → Thread → Front → Front
  | 0, _, front => front
  | n + 1, t, front =>
    if front.visited[t.place]?.getD true then front
    else
      let front := { front with visited := front.visited.setIfInBounds t.place true }
      match p.instruction? t.place with
      | none => front
      | some (.fork first second) =>
        let front := p.spread before after position n { t with place := first } front
        p.spread before after position n { t with place := second } front
      | some (.save slot next) =>
        let saved := (slot, position) :: t.saved
        p.spread before after position n { t with place := next, saved } front
      | some (.check condition next) =>
        if condition.holds before after then
          p.spread before after position n { t with place := next } front
        else front
      | some _ => { front with threads := front.threads.push t }

/-- The front with one more thread, followed as far as it goes without reading. -/
def add (p : Program) (before after : Option Char) (position : Nat) (t : Thread)
    (front : Front) : Front :=
  p.spread before after position (p.code.size + 1) t front

/-! ### Steps -/

/-- The threads that go on after a character, and the match if one accepts before it;
threads after an accepting one are dropped. -/
def stepThreads (p : Program) (c : Char) (after : Option Char) (position : Nat) :
    List Thread → Front → Option Hit → Front × Option Hit
  | [], front, best => (front, best)
  | t :: ts, front, best =>
    match p.instruction? t.place with
    | some .accept => (front, some ⟨t.start, position, t.saved⟩)
    | some (.read chars next) =>
      let front :=
        if chars.mem c then
          p.add (some c) after (position + 1) { t with place := next } front
        else front
      p.stepThreads c after position ts front best
    | _ => p.stepThreads c after position ts front best

/-- The match of the first accepting thread at the end of the text. -/
def acceptAtEnd (p : Program) (position : Nat) : List Thread → Option Hit
  | [] => none
  | t :: ts =>
    match p.instruction? t.place with
    | some .accept => some ⟨t.start, position, t.saved⟩
    | _ => p.acceptAtEnd position ts

/-- The search from a position on: the character before it, the text after it, the
threads alive there, and the best match so far. -/
def searchFrom (p : Program) :
    (before : Option Char) → (position : Nat) → Text → Front → Option Hit → Option Hit
  | before, position, [], front, best =>
    let front := if best.isNone then p.add before none position ⟨p.start, position, []⟩ front
      else front
    (p.acceptAtEnd position front.threads.toList).or best
  | before, position, c :: s, front, best =>
    let front :=
      if best.isNone then p.add before (some c) position ⟨p.start, position, []⟩ front
      else front
    if front.threads.isEmpty && best.isSome then best
    else
      let (next, best) :=
        p.stepThreads c s.head? position front.threads.toList p.emptyFront best
      p.searchFrom (some c) (position + 1) s next best

/-- **The first match** in a text that follows a given character, if it follows one;
positions are counted from `position`. -/
def search (p : Program) (before : Option Char) (position : Nat) (s : Text) : Option Hit :=
  p.searchFrom before position s p.emptyFront none

end Program

end GnuLint
