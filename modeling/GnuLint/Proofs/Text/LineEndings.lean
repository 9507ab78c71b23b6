import GnuLint.Proofs.Text.Bodies
import GnuLint.Proofs.Text.Utf8

/-!
# Three ways to the lines of a text

The lines of a text are reached in three ways. One looks for line endings, a newline or a
carriage return with a newline, and takes what stands between them
(`GnuLint.Text.AreLines`); one cuts after each newline and takes the terminators off the
pieces, which is how a text is scanned and fixed (`GnuLint.Text.lines`); and one cuts the
*bytes* of a file after each newline byte, and decodes piece by piece.

They come to the same lines: `GnuLint.Text.areLines_iff` for the first two, and
`GnuLint.Bytes.pieces_ofText` for the third. What the third rests on is that the newline
byte is the whole encoding of the newline and no part of any other
(`GnuLint.Bytes.newline_mem_utf8EncodeChar`), so that bytes are never cut inside a
character. A carriage return that no newline follows ends no line, and a newline at the end
of a text is not followed by another line, in any of the three.
-/

namespace GnuLint

/-! ### Line endings -/

namespace Text

/-- **The lines of a text**, told by their endings: every line but the last one ends in a
newline or in a carriage return with a newline, the last one may end in neither, and there
is no empty line after the last ending. -/
inductive AreLines : Text → List Text → Prop
  /-- The empty text has no lines. -/
  | nil : AreLines [] []
  /-- A line without an ending is the last one. -/
  | last {line : Text} : line ≠ [] → '\n' ∉ line → AreLines line [line]
  /-- A line with an ending comes before all others. -/
  | cons {line ending rest : Text} {lines : List Text} :
    Terminates line ending → ending ≠ [] → AreLines rest lines →
      AreLines (line ++ ending ++ rest) (line :: lines)

/-- A piece that ends in a newline has a terminator. -/
theorem terminator_ne_nil {piece : Text} (h : piece.getLast? = some '\n') :
    terminator piece ≠ [] := by
  obtain ⟨front, rfl⟩ := List.getLast?_eq_some_iff.mp h
  intro hnil
  have hbody := body_append_terminator (front ++ ['\n'])
  rw [hnil, List.append_nil] at hbody
  have hlength := congrArg List.length hbody
  rcases List.eq_nil_or_concat' front with rfl | ⟨t, c, rfl⟩
  · cases hnil
  · by_cases hc : c = '\r' <;> simp [body, hc] at hlength

/-- Where a text is cut after its newlines, the bodies of the pieces are its lines. -/
theorem areLines_of_isCut {s : Text} {ps : List Text} (h : IsCut s ps) :
    AreLines s (ps.map body) := by
  induction ps generalizing s with
  | nil =>
    obtain rfl : s = [] := h.flatten_eq.symm
    exact .nil
  | cons piece ps ih =>
    obtain ⟨rfl, hne, hinside, hends, hmore⟩ := isCut_cons_iff.mp h
    have hterminates := terminates_of_inside hinside
    have hpiece := body_append_terminator piece
    rw [List.map_cons]
    by_cases hlast : piece.getLast? = some '\n'
    · have hline := AreLines.cons hterminates (terminator_ne_nil hlast) (ih hmore)
      rwa [hpiece] at hline
    · -- only the last piece ends without a newline, and it is its own body
      obtain rfl : ps = [] := hends.resolve_left hlast
      obtain hnil : terminator piece = [] := by
        cases hterminator : terminator piece with
        | nil => rfl
        | cons c t =>
          rw [hterminator] at hterminates hpiece
          rw [← hpiece] at hlast
          cases hterminates <;> simp at hlast
      rw [hnil, List.append_nil] at hpiece
      rw [hnil] at hterminates
      cases hterminates with
      | unterminated hbody =>
        rw [hpiece] at hbody ⊢
        rw [List.flatten_nil, List.append_nil]
        exact .last hne hbody

/-- Lines that are told by their endings are the bodies of pieces. -/
theorem exists_isCut_of_areLines {s : Text} {ls : List Text} (h : AreLines s ls) :
    ∃ ps, IsCut s ps ∧ ps.map body = ls := by
  induction h with
  | nil => exact ⟨[], isCut_nil, rfl⟩
  | @last line hne hline =>
    have hcut : IsCut line [line] := isCut_cons_iff.mpr
      ⟨(List.append_nil line).symm, hne, fun hm => hline (List.dropLast_subset line hm),
        Or.inr rfl, isCut_nil⟩
    have hbody : body line = line := by
      have hread := body_of_terminates (Terminates.unterminated hline)
      rwa [List.append_nil] at hread
    exact ⟨[line], hcut, by rw [List.map_cons, hbody, List.map_nil]⟩
  | @cons line ending rest lines hends hne _ ih =>
    obtain ⟨ps, hcut, hlines⟩ := ih
    have hinside : '\n' ∉ (line ++ ending).dropLast ∧ (line ++ ending).getLast? = some '\n' := by
      cases hends with
      | returned hline => exact ⟨by simpa using hline, by simp⟩
      | newline hline _ => exact ⟨by simpa using hline, by simp⟩
      | unterminated => exact absurd rfl hne
    refine ⟨(line ++ ending) :: ps,
      isCut_cons_iff.mpr ⟨?_, ?_, hinside.1, Or.inl hinside.2, ?_⟩, ?_⟩
    · rw [hcut.flatten_eq]
    · exact fun hnil => hne (List.append_eq_nil_iff.mp hnil).2
    · rw [hcut.flatten_eq]
      exact hcut
    · rw [List.map_cons, body_of_terminates hends, hlines]

/-- **The lines of a text are those that its line endings tell**, and no others. -/
theorem areLines_iff {s : Text} {ls : List Text} : AreLines s ls ↔ ls = lines s := by
  constructor
  · intro h
    obtain ⟨ps, hcut, rfl⟩ := exists_isCut_of_areLines h
    rw [lines, pieces_eq_of_isCut hcut]
  · rintro rfl
    exact areLines_of_isCut (isCut_pieces s)

/-- A carriage return ends a line together with a newline only. -/
example : lines "a\rb\r\n\n\rc\r".toList = ["a\rb".toList, [], "\rc\r".toList] := by decide

end Text

/-! ### Newlines in bytes -/

namespace Bytes

/-- **The newline byte is the encoding of the newline**, and it is no part of the encoding
of another character. -/
theorem newline_mem_utf8EncodeChar {c : Char} :
    newline ∈ String.utf8EncodeChar c ↔ c = '\n' := by
  have hbyte {v : Nat} (hv : v < 256) : newline = UInt8.ofNat v ↔ v = 10 := by
    rw [← UInt8.toNat_inj, UInt8.toNat_ofNat_of_lt' hv]
    exact eq_comm
  have hchar : c = '\n' ↔ c.val.toNat = 10 := by
    rw [Char.ext_iff, ← UInt32.toNat_inj]
    rfl
  rw [hchar]
  unfold String.utf8EncodeChar
  dsimp only
  -- a character of several bytes has bytes from 128 on only
  split
  · rw [List.mem_singleton, hbyte (by omega)]
  · split
    · simp only [List.mem_cons, List.not_mem_nil, or_false]
      rw [hbyte (by omega), hbyte (by omega)]
      omega
    · split
      · simp only [List.mem_cons, List.not_mem_nil, or_false]
        rw [hbyte (by omega), hbyte (by omega), hbyte (by omega)]
        omega
      · simp only [List.mem_cons, List.not_mem_nil, or_false]
        rw [hbyte (by omega), hbyte (by omega), hbyte (by omega), hbyte (by omega)]
        omega

theorem ofText_cons (c : Char) (s : Text) :
    ofText (c :: s) = String.utf8EncodeChar c ++ ofText s := rfl

theorem ofText_append (s t : Text) : ofText (s ++ t) = ofText s ++ ofText t :=
  List.flatMap_append

theorem ofText_ne_nil {s : Text} (h : s ≠ []) : ofText s ≠ [] := by
  obtain ⟨c, t, rfl⟩ := List.exists_cons_of_ne_nil h
  intro hnil
  rw [ofText_cons, List.append_eq_nil_iff] at hnil
  have hlength := String.length_utf8EncodeChar c
  have hpos := Char.utf8Size_pos c
  rw [hnil.1, List.length_nil] at hlength
  omega

theorem splitPiece_append_of_notMem {p : Bytes} (h : newline ∉ p) (s : Bytes) :
    splitPiece (p ++ s) = (p ++ (splitPiece s).1, (splitPiece s).2) := by
  induction p with
  | nil => rfl
  | cons b p ih =>
    obtain ⟨hb, hp⟩ := not_or.mp (mt List.mem_cons.mpr h)
    rw [List.cons_append, splitPiece, if_neg (Ne.symm hb), ih hp]
    rfl

/-- The first piece of some bytes is the encoding of the first piece of their text. -/
theorem splitPiece_ofText (s : Text) :
    splitPiece (ofText s) = (ofText (Text.splitPiece s).1, ofText (Text.splitPiece s).2) := by
  induction s with
  | nil => rfl
  | cons c s ih =>
    by_cases hc : c = '\n'
    · subst hc
      rfl
    · rw [ofText_cons, splitPiece_append_of_notMem (mt newline_mem_utf8EncodeChar.mp hc), ih,
        Text.splitPiece_cons hc]
      rfl

theorem piecesWithin_ofText {n m : Nat} {s : Text} (hn : (ofText s).length ≤ n)
    (hm : s.length ≤ m) :
    piecesWithin n (ofText s) = (Text.piecesWithin m s).map ofText := by
  induction m generalizing n s with
  | zero =>
    obtain rfl : s = [] := List.length_eq_zero_iff.mp (Nat.le_zero.mp hm)
    cases n <;> rfl
  | succ m ih =>
    cases s with
    | nil => cases n <;> rfl
    | cons c s =>
      have hcut := splitPiece_ofText (c :: s)
      have hwhole := congrArg ofText (Text.splitPiece_append (c :: s))
      have hlength := Text.length_splitPiece_snd_lt c s
      have hfirst := List.length_pos_iff.mpr (ofText_ne_nil (Text.splitPiece_ne_nil c s))
      have hbytes := ofText_ne_nil (List.cons_ne_nil c s)
      rw [ofText_append] at hwhole
      have htotal := congrArg List.length hwhole
      rw [List.length_append] at htotal
      rcases hb : ofText (c :: s) with _ | ⟨b, bs⟩
      · exact absurd hb hbytes
      rw [hb] at hcut hn htotal
      cases n with
      | zero => simp at hn
      | succ n =>
        rw [piecesWithin, hcut, Text.piecesWithin, List.map_cons, ih (by omega) (by omega)]

/-- **The pieces of an encoded text are its encoded pieces.** -/
theorem pieces_ofText (s : Text) : pieces (ofText s) = (Text.pieces s).map ofText :=
  piecesWithin_ofText (Nat.le_refl _) (Nat.le_refl _)

end Bytes

end GnuLint
