import GnuLint.Fix.File
import GnuLint.Rule.LoadError
import GnuLint.Text.Padded

/-!
# Failures and what lies behind them

A failure is told by its own words and, below them, by the words for each thing that lies
behind it, from the nearest to the farthest. Several of those are numbered from zero on;
the further lines of one that has several are indented under its first.
-/

namespace GnuLint.CommandLine

/-- A failure. -/
structure Failure where
  /-- Its words. -/
  message : String
  /-- The words for what lies behind it. -/
  causes : List String
  deriving DecidableEq, Repr

namespace Failure

/-- A failure seen from farther away. -/
def within (f : Failure) (message : String) : Failure := ⟨message, f.message :: f.causes⟩

/-- A text with something put in after each newline. -/
def indentFurther (indent : Text) (s : Text) : Text :=
  s.flatMap fun c => if c = '\n' then c :: indent else [c]

/-- Numbered causes, from a number on. -/
def numbered : (number : Nat) → List String → Text
  | _, [] => []
  | n, cause :: causes =>
    '\n' :: Text.padLeft 5 (toString n).toList ++ ": ".toList ++
      indentFurther "       ".toList cause.toList ++ numbered (n + 1) causes

/-- The text of the causes of a failure. -/
def causeText : List String → Text
  | [] => []
  | [cause] =>
    "\n\nCaused by:\n    ".toList ++ indentFurther "    ".toList cause.toList
  | causes => "\n\nCaused by:".toList ++ numbered 0 causes

/-- **The text of a failure.** -/
def text (f : Failure) : Text := f.message.toList ++ causeText f.causes

end Failure

end GnuLint.CommandLine

namespace GnuLint

open CommandLine

/-- A failure to load rules. -/
def LoadError.failure (e : LoadError) : Failure := ⟨e.message, e.causes⟩

/-- A failure to read a script. -/
def ScanError.failure (e : ScanError FileError) : Failure := ⟨e.message, [e.cause.message]⟩

/-- A failure to write a result. -/
def SaveError.failure (e : SaveError) : Failure := ⟨e.message, e.causes⟩

end GnuLint
