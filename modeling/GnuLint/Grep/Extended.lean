import GnuLint.Grep.Perl

/-!
# Translating Perl patterns into extended ones

An extended pattern has no class escapes, so these become bracket expressions. It has no
assertions of zero width, no references back, no group extensions, and no lazy or
possessive quantifiers either; a pattern that uses one of them is refused, with the first
construct that has no counterpart (`GnuLint.Grep.toExtended`).
-/

namespace GnuLint.Grep

/-- A construct of Perl patterns that extended patterns cannot express. -/
inductive Unportable
  /-- A backslash at the end of the pattern. -/
  | trailingBackslash
  /-- An assertion of zero width. -/
  | assertion (c : Char)
  /-- A reference to a group. -/
  | backreference (c : Char)
  /-- Another letter or digit after a backslash. -/
  | escape (c : Char)
  /-- A group that begins with a question mark. -/
  | groupExtension (text : Text)
  /-- A quantifier after a quantifier. -/
  | lazyQuantifier (c : Char)
  /-- A character after a backslash in a bracket expression, where backslashes are
  literal. -/
  | bracketLiteral (c : Char)
  /-- Another letter or digit after a backslash in a bracket expression. -/
  | bracketEscape (c : Char)
  /-- A bracket expression that is not closed. -/
  | unclosedBracket
  deriving DecidableEq, Repr

namespace Unportable

/-- The words for a construct. -/
def construct : Unportable → Text
  | trailingBackslash => "trailing backslash".toList
  | assertion c => "zero-width assertion \\".toList ++ [c]
  | backreference c => "backreference \\".toList ++ [c]
  | escape c => "escape \\".toList ++ [c]
  | groupExtension text => "group extension ".toList ++ text
  | lazyQuantifier c => "lazy or possessive quantifier ".toList ++ [c]
  | bracketLiteral c => "escaped \\".toList ++ c :: " inside [...]".toList
  | bracketEscape c => "escape \\".toList ++ c :: " inside [...]".toList
  | unclosedBracket => "unterminated [".toList

/-- The words for a refusal. -/
def message (u : Unportable) : Text := u.construct ++ " has no POSIX ERE equivalent".toList

end Unportable

/-! ### Bracket expressions -/

/-- The counterpart of a character after a backslash in a bracket expression. -/
def bracketEscape (c : Char) : Except Unportable Text :=
  match c with
  | 'd' => .ok "0-9".toList
  | 'w' => .ok "[:alnum:]_".toList
  | 's' => .ok "[:space:]".toList
  | ']' | '\\' | '^' | '-' => .error (.bracketLiteral c)
  | c => if c.isAlphanum then .error (.bracketEscape c) else .ok [c]

/-- The counterpart of an item of a bracket expression. -/
def BracketItem.toExtended : BracketItem → Except Unportable Text
  | escape c => bracketEscape c
  | className text => .ok ('[' :: text)
  | char c => .ok [c]

/-- The counterpart of some items of a bracket expression and its end. -/
def bracketToExtended (stop : BracketEnd) : List BracketItem → Except Unportable Text
  | [] =>
    match stop with
    | .closed => .ok [']']
    | .unclosed => .error .unclosedBracket
    | .backslash => .error .trailingBackslash
  | item :: items => do
    let first ← item.toExtended
    let rest ← bracketToExtended stop items
    return first ++ rest

/-! ### Tokens -/

/-- Whether a character after a backslash asserts something about a position. -/
def isAssertion (c : Char) : Bool :=
  c == 'b' || c == 'B' || c == 'K' || c == 'A' || c == 'z' || c == 'Z' || c == 'G'

/-- The counterpart of a character after a backslash. -/
def escapeToExtended (c : Char) : Except Unportable Text :=
  match c with
  | 'd' => .ok "[0-9]".toList
  | 'D' => .ok "[^0-9]".toList
  | 'w' => .ok "[[:alnum:]_]".toList
  | 'W' => .ok "[^[:alnum:]_]".toList
  | 's' => .ok "[[:space:]]".toList
  | 'S' => .ok "[^[:space:]]".toList
  | c =>
    if isAssertion c then .error (.assertion c)
    else if '1' ≤ c ∧ c ≤ '9' then .error (.backreference c)
    else if c.isAlphanum then .error (.escape c)
    else .ok ['\\', c]

/-- **The counterpart of a token**, given whether the token before it is a quantifier. A
brace that opens no interval is escaped. -/
def Token.toExtended (afterQuantifier : Bool) : Token → Except Unportable Text
  | escape c => escapeToExtended c
  | backslash => .error .trailingBackslash
  | groupExtension text => .error (.groupExtension text)
  | bracket negated items stop => do
    let rest ← bracketToExtended stop items
    return '[' :: (if negated then '^' :: rest else rest)
  | interval bounds => .ok ('\x7b' :: bounds)
  | char c =>
    if afterQuantifier && (c == '+' || c == '?') then .error (.lazyQuantifier c)
    else if c == '\x7b' then .ok ['\\', c]
    else .ok [c]

/-- The counterpart of some tokens. -/
def tokensToExtended : (afterQuantifier : Bool) → List Token → Except Unportable Text
  | _, [] => .ok []
  | afterQuantifier, t :: ts => do
    let first ← t.toExtended afterQuantifier
    let rest ← tokensToExtended t.isQuantifier ts
    return first ++ rest

/-- **The extended pattern that means what a Perl pattern means**, or the first construct
in it that has no counterpart. -/
def toExtended (pattern : Text) : Except Unportable Text :=
  tokensToExtended false (tokens pattern)

end GnuLint.Grep
