import GnuLint.Pattern.Regex

/-!
# Programs

A tree is turned into a program before it is searched for: a list of instructions,
each of which reads a character, checks the position, remembers it, or goes on at one
or two other instructions. Where there are two, the first is preferred; this carries
the preferences of choice and repetition over.

The program is written from its end backwards: the code of an expression is made for
a place to go on at, and returns the place where it begins. A loop needs a place
before its body is written, so it reserves one and fills it in afterwards.

A loop whose body can match nothing is entered through a choice of its own. Without
it, a turn that matches nothing would hide the preferences of the body.
-/

namespace GnuLint

/-- One instruction of a program; the numbers are places in the program. -/
inductive Instruction
  /-- The text is matched. -/
  | accept
  /-- Reads a character of a set, and goes on. -/
  | read (chars : CharSet) (next : Nat)
  /-- Goes on where a condition holds. -/
  | check (condition : Look) (next : Nat)
  /-- Remembers the position in a slot, and goes on. -/
  | save (slot next : Nat)
  /-- Goes on at either place, the first one preferred. -/
  | fork (first second : Nat)

/-- A program: its instructions, and where it starts. -/
structure Program where
  /-- The instructions. -/
  code : Array Instruction
  /-- The place of the first instruction. -/
  start : Nat

namespace Program

/-! ### Writing instructions -/

/-- Instructions written so far. -/
abbrev Code := Array Instruction

/-- The code with one more instruction, and its place. -/
def emit (i : Instruction) (code : Code) : Code × Nat := (code.push i, code.size)

/-- A choice between going on in a body and after it. -/
def loopFork (greedy : Bool) (body next : Nat) : Instruction :=
  if greedy then .fork body next else .fork next body

/-- Some copies of a body, one after the other. -/
def copies (body : Nat → Code → Code × Nat) : Nat → Nat → Code → Code × Nat
  | 0, next, code => (code, next)
  | n + 1, next, code =>
    let (code, next) := body next code
    copies body n next code

/-- A body repeated one time or more. -/
def onceOrMore (body : Nat → Code → Code × Nat) (greedy : Bool) (next : Nat) (code : Code) :
    Code × Nat :=
  let (code, loop) := emit (.fork next next) code
  let (code, first) := body loop code
  (code.setIfInBounds loop (loopFork greedy first next), first)

/-- A body repeated any number of times. -/
def anyTimes (body : Nat → Code → Code × Nat) (greedy nullable : Bool) (next : Nat)
    (code : Code) : Code × Nat :=
  let (code, loop) := emit (.fork next next) code
  let (code, first) := body loop code
  let code := code.setIfInBounds loop (loopFork greedy first next)
  if nullable then emit (loopFork greedy first next) code else (code, loop)

/-- A body repeated up to a number of times; `out` is the place after all of them. -/
def upTo (body : Nat → Code → Code × Nat) (greedy : Bool) (out : Nat) :
    Nat → Nat → Code → Code × Nat
  | 0, next, code => (code, next)
  | n + 1, next, code =>
    let (code, first) := body next code
    let (code, entry) := emit (loopFork greedy first out) code
    upTo body greedy out n entry code

/-- The code of an expression that goes on at a given place, and where it begins. -/
def compile : Regex → Nat → Code → Code × Nat
  | .empty, next, code => (code, next)
  | .set chars, next, code => emit (.read chars next) code
  | .look condition, next, code => emit (.check condition next) code
  | .seq r s, next, code =>
    let (code, second) := compile s next code
    compile r second code
  | .alt r s, next, code =>
    let (code, second) := compile s next code
    let (code, first) := compile r next code
    emit (.fork first second) code
  | .group index r, next, code =>
    let (code, close) := emit (.save (2 * index + 1) next) code
    let (code, inner) := compile r close code
    emit (.save (2 * index) inner) code
  | .repetition least most greedy r, next, code =>
    let body := fun next code => compile r next code
    match most with
    | none =>
      match least with
      | 0 => anyTimes body greedy r.isNullable next code
      | n + 1 =>
        let (code, last) := onceOrMore body greedy next code
        copies body n last code
    | some most =>
      let (code, optional) := upTo body greedy next (most - least) next code
      copies body least optional code

/-- **The program of an expression.** -/
def ofRegex (r : Regex) : Program :=
  let (code, start) := compile r 0 #[.accept]
  ⟨code, start⟩

/-- The instruction at a place. -/
def instruction? (p : Program) (place : Nat) : Option Instruction := p.code[place]?

end Program

end GnuLint
