import GnuLint.Unicode.CaseFolding
import GnuLint.Unicode.RangeTable

/-!
# Sets of characters

What a single character of a pattern may stand for: a set built from ranges and
tables by union, intersection and complement, and by closing a set under case. A set
is only ever asked whether a character belongs to it (`GnuLint.CharSet.mem`), so it
is kept as the expression that built it.
-/

namespace GnuLint

open Unicode

/-- An expression for a set of characters. -/
inductive CharSet
  /-- No character. -/
  | empty
  /-- The characters between two ends, both included. -/
  | range (first last : Char)
  /-- The characters of a table. -/
  | table (ranges : RangeTable)
  /-- The characters of either set. -/
  | union (a b : CharSet)
  /-- The characters of both sets. -/
  | inter (a b : CharSet)
  /-- The characters that are not in a set. -/
  | compl (a : CharSet)
  /-- The characters of a set and all their case variants. -/
  | caseless (a : CharSet)

namespace CharSet

/-- **Membership** of a character in a set. -/
def mem : CharSet → Char → Bool
  | empty, _ => false
  | range first last, c => first ≤ c && c ≤ last
  | table ranges, c => ranges.mem c
  | union a b, c => a.mem c || b.mem c
  | inter a b, c => a.mem c && b.mem c
  | compl a, c => !a.mem c
  | caseless a, c => a.mem c || (variants c).any a.mem

/-- The set of one character. -/
def single (c : Char) : CharSet := range c c

@[simp] theorem mem_single (c d : Char) : (single c).mem d = decide (d = c) := by
  by_cases h : d = c
  · subst h
    simp [single, mem]
  · simp only [single, mem, h, decide_false, Bool.and_eq_false_iff, decide_eq_false_iff_not]
    by_cases hle : c ≤ d
    · exact .inr fun hdc => h (Char.le_antisymm hdc hle)
    · exact .inl hle

/-- Every character. -/
def any : CharSet := compl empty

/-- The characters of the first set that are not in the second. -/
def diff (a b : CharSet) : CharSet := inter a (compl b)

/-- The characters of exactly one of two sets. -/
def symmDiff (a b : CharSet) : CharSet := union (diff a b) (diff b a)

/-- The union of several sets. -/
def unionAll (sets : List CharSet) : CharSet := sets.foldr union empty

/-- The union of several ranges. -/
def ofRanges (ranges : List (Char × Char)) : CharSet :=
  unionAll (ranges.map fun (first, last) => range first last)

/-- The characters of one byte. -/
def ascii : CharSet := range '\x00' '\x7f'

/-- An estimate of the number of ranges of a set. Of two large sets of a union, the
ranges of the smaller one are taken to fill gaps of the larger one, as those of
lower-case and upper-case letters do. -/
def rangeCount : CharSet → Nat
  | empty => 0
  | range _ _ => 1
  | table ranges => ranges.size
  | union a b =>
    let (m, n) := (a.rangeCount, b.rangeCount)
    if min m n ≤ 64 then m + n else max m n
  | inter a b => max a.rangeCount b.rangeCount
  | compl a => a.rangeCount + 1
  | caseless a => if a.rangeCount ≤ 64 then 2 * a.rangeCount else a.rangeCount

/-- Whether an expression stands for characters of one byte only, as far as its ends
tell. -/
def isNarrow : CharSet → Bool
  | empty => true
  | range _ last => last.val < 0x80
  | table _ => false
  | union a b => a.isNarrow && b.isNarrow
  | inter a b => a.isNarrow || b.isNarrow
  | compl _ => false
  | caseless _ => false

end CharSet

end GnuLint
