import GnuLint.Text.Basic
import Mathlib.Data.List.Infix

/-!
# Beginnings of texts

A fix works on the end of a line, from some byte on, and has no say in what stands before.
So what is known of a line that has been fixed a few times is how much of its beginning it
shares with the line there was at first (`GnuLint.Text.AgreeUpTo`). A line can be cut at a
byte offset exactly if it has a beginning of that many bytes
(`GnuLint.Text.cutAt?_eq_some_iff`), so lines that agree up to an offset can be cut there
alike.
-/

namespace GnuLint.Text

variable {s t p q before after : Text} {m n : Nat}

theorem byteLength_eq_zero_iff : byteLength s = 0 ↔ s = [] := by
  cases s with
  | nil => simp
  | cons c s =>
    have hpos := Char.utf8Size_pos c
    simp only [byteLength_cons, reduceCtorEq, iff_false]
    omega

theorem byteLength_pos (h : s ≠ []) : 0 < byteLength s :=
  Nat.pos_of_ne_zero (mt byteLength_eq_zero_iff.mp h)

/-- **A text is cut at an offset** into a beginning of that many bytes and the rest. -/
theorem cutAt?_eq_some_iff :
    cutAt? s n = some (before, after) ↔ s = before ++ after ∧ byteLength before = n := by
  constructor
  · exact eq_append_of_cutAt?
  · rintro ⟨rfl, rfl⟩
    exact cutAt?_byteLength before after

theorem byteLength_le_of_prefix (h : p <+: s) : byteLength p ≤ byteLength s := by
  obtain ⟨t, rfl⟩ := h
  rw [byteLength_append]
  exact Nat.le_add_right _ _

/-- Of two beginnings of a text, the one with fewer bytes begins the other one. -/
theorem prefix_of_byteLength_le (hp : p <+: s) (hq : q <+: s)
    (hle : byteLength p ≤ byteLength q) : p <+: q := by
  rcases List.prefix_or_prefix_of_prefix hp hq with hpq | ⟨t, rfl⟩
  · exact hpq
  · -- then there is nothing by which the first one is longer
    rw [byteLength_append] at hle
    obtain rfl : t = [] := byteLength_eq_zero_iff.mp (by omega)
    rw [List.append_nil]

/-! ### Texts that begin alike -/

/-- **A text begins as another one does**, up to a byte offset: it has all beginnings of
the other one that are no longer. -/
def AgreeUpTo (n : Nat) (s t : Text) : Prop :=
  ∀ start, start <+: s → byteLength start ≤ n → start <+: t

namespace AgreeUpTo

theorem refl (n : Nat) (s : Text) : AgreeUpTo n s s := fun _ hstart _ => hstart

theorem mono (h : AgreeUpTo n s t) (hle : m ≤ n) : AgreeUpTo m s t :=
  fun start hstart hlength => h start hstart (Nat.le_trans hlength hle)

/-- Texts with a beginning in common agree as far as it goes. -/
theorem of_prefix (hs : p <+: s) (ht : p <+: t) : AgreeUpTo (byteLength p) s t :=
  fun _ hstart hlength => (prefix_of_byteLength_le hstart hs hlength).trans ht

/-- Where a text is cut, a text that agrees with it so far is cut as well. -/
theorem exists_cutAt? (h : AgreeUpTo n s t) (hcut : cutAt? s n = some (before, after)) :
    ∃ rest, cutAt? t n = some (before, rest) := by
  obtain ⟨rfl, hlength⟩ := cutAt?_eq_some_iff.mp hcut
  obtain ⟨rest, hrest⟩ := h before (List.prefix_append before after) (Nat.le_of_eq hlength)
  exact ⟨rest, cutAt?_eq_some_iff.mpr ⟨hrest.symm, hlength⟩⟩

/-- What stands at an offset of a text stands there in a text that agrees with it beyond. -/
theorem exists_cutAt?_append (h : AgreeUpTo n s t)
    (hcut : cutAt? s m = some (before, p ++ after)) (hle : m + byteLength p ≤ n) :
    ∃ rest, cutAt? t m = some (before, p ++ rest) := by
  obtain ⟨rfl, hlength⟩ := cutAt?_eq_some_iff.mp hcut
  have hbegins : before ++ p <+: before ++ (p ++ after) := by
    rw [← List.append_assoc]
    exact List.prefix_append _ _
  have hshort : byteLength (before ++ p) ≤ n := by
    rw [byteLength_append, hlength]
    exact hle
  obtain ⟨rest, hrest⟩ := h _ hbegins hshort
  refine ⟨rest, cutAt?_eq_some_iff.mpr ⟨?_, hlength⟩⟩
  rw [← hrest, List.append_assoc]

end AgreeUpTo

end GnuLint.Text
