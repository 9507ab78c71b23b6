import GnuLint.Text.Basic

/-!
# Styled text

A report is a list of lines, and a line is a list of spans, each with a style. Shown
without colour, a span is its text; shown with colour, it is its text between the
terminal's code for the style and the code that resets it. A reset inside the text would
end the style early, so the code of the style is repeated after it.
-/

namespace GnuLint

/-- How a span looks. -/
inductive Style
  /-- Like the rest of the terminal. -/
  | plain
  /-- Bold. -/
  | bold
  /-- Dimmed. -/
  | dimmed
  /-- Red. -/
  | red
  /-- Green. -/
  | green
  /-- Yellow. -/
  | yellow
  /-- Blue. -/
  | blue
  /-- Bold and red. -/
  | boldRed
  /-- Bold and yellow. -/
  | boldYellow
  /-- Bold and blue. -/
  | boldBlue
  deriving DecidableEq, Repr

/-- The parameters of a terminal code that switches a style on, if it takes one. -/
def Style.parameters? : Style → Option String
  | plain => none
  | bold => some "1"
  | dimmed => some "2"
  | red => some "31"
  | green => some "32"
  | yellow => some "33"
  | blue => some "34"
  | boldRed => some "1;31"
  | boldYellow => some "1;33"
  | boldBlue => some "1;34"

/-- A text in a style. -/
structure Span where
  /-- The style. -/
  style : Style
  /-- The text. -/
  text : Text
  deriving DecidableEq, Repr

namespace Span

/-- A text in no style of its own. -/
def plain (s : Text) : Span := ⟨.plain, s⟩

/-- A string in no style of its own. -/
def ofString (s : String) : Span := plain s.toList

/-! ### Terminal codes -/

/-- The terminal code with some parameters. -/
def code (parameters : String) : Text := '\x1b' :: '[' :: parameters.toList ++ ['m']

/-- The terminal code that ends a style. -/
def reset : Text := code "0"

/-- A text with a code repeated after each reset in it. The bound counts characters. -/
def restyleWithin (style : Text) : Nat → Text → Text
  | 0, s => s
  | _, [] => []
  | n + 1, c :: s =>
    match Text.stripStart? (c :: s) reset with
    | some rest => reset ++ (style ++ restyleWithin style n rest)
    | none => c :: restyleWithin style n s

/-- A text with a code repeated after each reset in it. -/
def restyle (style s : Text) : Text := restyleWithin style s.length s

/-- **A span as it is shown**, with or without colour. -/
def render (color : Bool) (span : Span) : Text :=
  match color, span.style.parameters? with
  | true, some parameters =>
    let style := code parameters
    style ++ (restyle style span.text ++ reset)
  | _, _ => span.text

end Span

/-- A line of a report. -/
abbrev StyledLine := List Span

/-- **Lines as they are shown**, each with a newline after it. -/
def renderLines (color : Bool) (lines : List StyledLine) : Text :=
  lines.flatMap fun line => line.flatMap (Span.render color) ++ ['\n']

end GnuLint
