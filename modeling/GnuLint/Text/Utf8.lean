import GnuLint.Text.Basic

/-!
# Bytes and text

Files hold bytes; a script is the text they encode in UTF-8. Reading line by line
cuts the bytes after each newline byte and decodes piece by piece, so an invalid
byte spoils one line and not the file before it.
-/

namespace GnuLint

/-- The contents of a file. -/
abbrev Bytes := List UInt8

namespace Bytes

/-- The UTF-8 encoding of a text. -/
def ofText (s : Text) : Bytes := s.flatMap String.utf8EncodeChar

/-- The text that some bytes encode, or `none` when they are not valid UTF-8. -/
def toText? (bytes : Bytes) : Option Text :=
  (ByteArray.mk bytes.toArray).utf8Decode?.map Array.toList

/-- The newline byte. -/
def newline : UInt8 := 10

/-- The bytes up to and including the first newline byte, and the bytes after. -/
def splitPiece : Bytes → Bytes × Bytes
  | [] => ([], [])
  | b :: s =>
    if b = newline then ([b], s)
    else
      let (piece, rest) := splitPiece s
      (b :: piece, rest)

/-- The pieces of some bytes, cut right after each newline byte; the bound counts
pieces. -/
def piecesWithin : Nat → Bytes → List Bytes
  | _, [] => []
  | 0, s => [s]
  | n + 1, b :: s => (splitPiece (b :: s)).1 :: piecesWithin n (splitPiece (b :: s)).2

/-- The pieces of some bytes, cut right after each newline byte. -/
def pieces (s : Bytes) : List Bytes := piecesWithin s.length s

end Bytes

end GnuLint
