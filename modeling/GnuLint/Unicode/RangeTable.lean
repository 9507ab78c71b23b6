import GnuLint.Text.Basic

/-!
# Tables of character ranges

A set of characters given by Unicode is a table of ranges of numbers, in ascending
order and apart from each other. Tables are written down as text, one range a word,
its two ends in base sixteen joined by a hyphen, and looked up by bisection.
-/

namespace GnuLint.Unicode

/-- A table of ranges of character numbers, ascending and apart. -/
structure RangeTable where
  /-- The first and the last number of each range. -/
  ranges : Array (Nat × Nat)

namespace RangeTable

/-! ### Reading a table -/

/-- The value of a digit in base sixteen, lower case. -/
def digitValue (c : Char) : Nat :=
  if c.isDigit then c.toNat - '0'.toNat else c.toNat - 'a'.toNat + 10

/-- The number written by some digits in base sixteen. -/
def numeral (s : Text) : Nat := s.foldl (fun n c => 16 * n + digitValue c) 0

/-- The range that a word writes: two numbers joined by a hyphen, or a single one. -/
def range (word : Text) : Nat × Nat :=
  match word.span (· != '-') with
  | (first, _ :: last) => (numeral first, numeral last)
  | (only, []) => (numeral only, numeral only)

/-- The words of a text, which are separated by blanks and newlines. -/
def words (s : Text) : List Text :=
  ((s.map fun c => if c = '\n' then ' ' else c).splitOn ' ').filter (!·.isEmpty)

/-- The table that a text writes, its ranges separated by blanks and newlines. -/
def ofText (s : String) : RangeTable where
  ranges := ((words s.toList).map range).toArray

/-! ### Looking up a character -/

/-- Whether a number lies in one of the ranges from position `low` up to, and not
including, position `high`; each step halves the stretch, and `steps` bounds them. -/
def memBetween (t : RangeTable) (n : Nat) : Nat → Nat → Nat → Bool
  | 0, _, _ => false
  | steps + 1, low, high =>
    if low < high then
      let middle := (low + high) / 2
      match t.ranges[middle]? with
      | none => false
      | some (first, last) =>
        if n < first then t.memBetween n steps low middle
        else if last < n then t.memBetween n steps (middle + 1) high
        else true
    else false

/-- Whether a character lies in one of the ranges. -/
def mem (t : RangeTable) (c : Char) : Bool :=
  t.memBetween c.toNat (t.ranges.size + 1) 0 t.ranges.size

/-- The number of ranges. -/
def size (t : RangeTable) : Nat := t.ranges.size

end RangeTable

end GnuLint.Unicode
