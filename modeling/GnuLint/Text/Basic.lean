/-!
# Text and byte positions

A script is read as a list of characters, and every position that a user sees is
a **byte offset** into its UTF-8 encoding. This file ties the two together: the
length of a text in bytes, and the cut of a text at a byte offset, which exists
exactly where the offset falls between two characters.

* `GnuLint.Text.byteLength` – the number of bytes of a text;
* `GnuLint.Text.cutAt?` – the two halves of a text around a byte offset;
* `GnuLint.Text.stripStart?` – what follows a known beginning.
-/

namespace GnuLint

/-- A text is its list of characters. -/
abbrev Text := List Char

namespace Text

/-! ### Length in bytes -/

/-- The number of bytes of the UTF-8 encoding of a text. -/
def byteLength : Text → Nat
  | [] => 0
  | c :: s => c.utf8Size + byteLength s

@[simp] theorem byteLength_nil : byteLength [] = 0 := rfl

@[simp] theorem byteLength_cons (c : Char) (s : Text) :
    byteLength (c :: s) = c.utf8Size + byteLength s := rfl

@[simp] theorem byteLength_append (s t : Text) :
    byteLength (s ++ t) = byteLength s + byteLength t := by
  induction s with
  | nil => simp
  | cons c s ih => simp [ih, Nat.add_assoc]

/-! ### Cutting at a byte offset -/

/-- **The cut at a byte offset**: the texts before and after it, or `none` when
the offset lies past the end or inside a character. -/
def cutAt? : Text → Nat → Option (Text × Text)
  | s, 0 => some ([], s)
  | [], _ + 1 => none
  | c :: s, n + 1 =>
    if c.utf8Size ≤ n + 1 then
      (cutAt? s (n + 1 - c.utf8Size)).map fun (before, after) => (c :: before, after)
    else none

@[simp] theorem cutAt?_zero (s : Text) : cutAt? s 0 = some ([], s) := by
  cases s <;> rfl

/-- The two halves of a cut make up the text, and the first one is as long as the
offset says. -/
theorem eq_append_of_cutAt? {s before after : Text} {n : Nat}
    (h : cutAt? s n = some (before, after)) : s = before ++ after ∧ byteLength before = n := by
  induction s, n using cutAt?.induct generalizing before after with
  | case1 s => simp_all
  | case2 n => simp [cutAt?] at h
  | case3 c s n hc ih =>
    simp only [cutAt?, hc, if_true, Option.map_eq_some_iff] at h
    obtain ⟨⟨b, a⟩, hcut, heq⟩ := h
    obtain ⟨rfl, rfl⟩ := Prod.mk.injEq .. ▸ heq
    obtain ⟨rfl, hlen⟩ := ih hcut
    exact ⟨rfl, by simp only [byteLength_cons, hlen]; omega⟩
  | case4 c s n hc => simp [cutAt?, hc] at h

/-- A text can be cut after each of its beginnings. -/
@[simp] theorem cutAt?_byteLength (before after : Text) :
    cutAt? (before ++ after) (byteLength before) = some (before, after) := by
  induction before with
  | nil => simp
  | cons c s ih =>
    have hpos : 0 < c.utf8Size := Char.utf8Size_pos c
    obtain ⟨k, hk⟩ : ∃ k, c.utf8Size + byteLength s = k + 1 :=
      ⟨c.utf8Size + byteLength s - 1, by omega⟩
    have hsub : k + 1 - c.utf8Size = byteLength s := by omega
    have hle : c.utf8Size ≤ k + 1 := by omega
    simp [hk, cutAt?, hle, hsub, ih]

/-! ### Known beginnings -/

/-- What follows a known beginning, or `none` when the text does not begin so. -/
def stripStart? : Text → Text → Option Text
  | s, [] => some s
  | [], _ :: _ => none
  | c :: s, d :: t => if c = d then stripStart? s t else none

theorem stripStart?_eq_some_iff {s t rest : Text} :
    stripStart? s t = some rest ↔ s = t ++ rest := by
  induction t generalizing s with
  | nil => cases s <;> simp [stripStart?, eq_comm]
  | cons d t ih =>
    cases s with
    | nil => simp [stripStart?]
    | cons c s =>
      by_cases h : c = d
      · simp [stripStart?, h, ih]
      · simp [stripStart?, h]

/-- Whether a text begins with another one. -/
def startsWith (s t : Text) : Bool := (stripStart? s t).isSome

/-- Whether a text holds another one somewhere. -/
def holds : Text → Text → Bool
  | [], t => t.isEmpty
  | c :: s, t => startsWith (c :: s) t || holds s t

end Text

end GnuLint
