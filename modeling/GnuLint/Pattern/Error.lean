import GnuLint.Text.Basic

/-!
# Why a pattern is refused

The causes for which a text is not a pattern, with the words that tell them.
-/

namespace GnuLint

/-- A cause for which a text is not a pattern. -/
inductive PatternError
  /-- A group is not closed. -/
  | unclosedGroup
  /-- A closing parenthesis closes nothing. -/
  | unopenedGroup
  /-- A group looks around instead of matching. -/
  | lookaround
  /-- A group name is empty, cut short, misspelt or used twice. -/
  | groupName
  /-- A flag is unknown, repeated or missing. -/
  | flag
  /-- A repetition has nothing to repeat. -/
  | nothingToRepeat
  /-- The bounds of a repetition are not numbers, or not in order. -/
  | repetitionBounds
  /-- A backslash stands before a character that it gives no meaning. -/
  | unknownEscape
  /-- A reference to a group. -/
  | backreference
  /-- The pattern ends inside an escape. -/
  | unfinishedEscape
  /-- A character number is malformed or names no character. -/
  | characterNumber
  /-- A property name is unknown. -/
  | unknownProperty
  /-- A bracket expression is not closed. -/
  | unclosedBracket
  /-- An end of a range is no character, or the ends are out of order. -/
  | bracketRange
  /-- Something in a bracket expression stands for no set of characters. -/
  | bracketItem
  /-- Without Unicode, the pattern would match part of a character. -/
  | partOfCharacter
  /-- Parts of the pattern are nested too deeply. -/
  | tooDeep
  /-- The pattern grows too large when its repetitions are written out. -/
  | tooLarge
  deriving DecidableEq, Repr

/-- The words for a cause. -/
def PatternError.message : PatternError → String
  | unclosedGroup => "unclosed group"
  | unopenedGroup => "unopened group"
  | lookaround => "look-around is not supported"
  | groupName => "invalid group name"
  | flag => "invalid flags"
  | nothingToRepeat => "repetition has nothing to repeat"
  | repetitionBounds => "invalid repetition bounds"
  | unknownEscape => "unrecognized escape sequence"
  | backreference => "backreferences are not supported"
  | unfinishedEscape => "incomplete escape sequence"
  | characterNumber => "invalid character number"
  | unknownProperty => "unknown character property"
  | unclosedBracket => "unclosed character class"
  | bracketRange => "invalid character class range"
  | bracketItem => "invalid character class item"
  | partOfCharacter => "pattern can match invalid UTF-8"
  | tooDeep => "pattern is nested too deeply"
  | tooLarge => "compiled pattern is too large"

end GnuLint
