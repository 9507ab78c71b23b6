import GnuLint.Pattern.CharSet
import GnuLint.Unicode.Extra
import GnuLint.Unicode.Script

/-!
# Character properties by name

A pattern may name a set of characters by a Unicode property: a general category, a
script, or a property of its own. Names are matched loosely: case, blanks,
underscores and hyphens do not count, nor does a leading `is`
(`GnuLint.Property.normalize`).

Not every property of Unicode is known. Of those with values there are the general
category, the script and the script extensions, not the age or the classes of the text
boundaries; of those that hold or do not hold, the ones that `GnuLint.Property.binary?`
lists. A pattern with another name is refused, so what loads is stated for any way of
compiling patterns (`GnuLint.Rule.ofDefinitionWith`).
-/

namespace GnuLint.Property

open Unicode CharSet

/-! ### Names -/

/-- The part of a name that counts: ASCII only, in lower case, without blanks,
underscores and hyphens, and without a leading `is`. The name `isc` stands for
itself. -/
def normalize (name : Text) : String :=
  let (beginsWithIs, rest) := match name with
    | 'i' :: 's' :: r | 'I' :: 'S' :: r | 'i' :: 'S' :: r | 'I' :: 's' :: r => (true, r)
    | r => (false, r)
  let kept := (rest.filter fun c => c.val < 0x80 && c != ' ' && c != '_' && c != '-').map
    Char.toLower
  if beginsWithIs && kept == ['c'] then "isc" else String.ofList kept

/-! ### The sets -/

/-- The union of some general categories. -/
def ofCategories (gs : List GeneralCategory) : CharSet :=
  unionAll (gs.map fun g => table g.table)

/-- All letters. -/
def letters : CharSet :=
  ofCategories [.lowercaseLetter, .uppercaseLetter, .otherLetter, .titlecaseLetter, .modifierLetter]

/-- The property `Lowercase`. -/
def lowercase : CharSet := union (ofCategories [.lowercaseLetter]) (table otherLowercase)

/-- The property `Uppercase`. -/
def uppercase : CharSet := union (ofCategories [.uppercaseLetter]) (table otherUppercase)

/-- The property `Alphabetic`. -/
def alphabetic : CharSet :=
  union letters (union (ofCategories [.letterNumber]) (table otherAlphabetic))

/-- The property `Grapheme_Extend`. -/
def graphemeExtend : CharSet :=
  union (ofCategories [.nonspacingMark, .enclosingMark]) (table otherGraphemeExtend)

/-- The property `ID_Start`. -/
def idStart : CharSet :=
  diff (union letters (union (ofCategories [.letterNumber]) (table otherIdStart)))
    (table notIdStart)

/-- The property `ID_Continue`. -/
def idContinue : CharSet :=
  union idStart (union
    (ofCategories [.nonspacingMark, .spacingMark, .decimalNumber, .connectorPunctuation])
    (table otherIdContinue))

/-- The characters that stand in writing on their own or carry others. -/
def graphemeBase : CharSet :=
  compl (union graphemeExtend (ofCategories
    [.control, .format, .privateUse, .unassigned, .lineSeparator, .paragraphSeparator]))

/-- The digits in base sixteen that fit in one byte. -/
def asciiHexDigits : CharSet := ofRanges [('0', '9'), ('A', 'F'), ('a', 'f')]

/-- The word characters of Unicode. -/
def wordChars : CharSet :=
  unionAll [ofRanges [('a', 'z'), ('A', 'Z'), ('0', '9'), ('_', '_')], alphabetic,
    ofCategories [.nonspacingMark, .spacingMark, .enclosingMark, .decimalNumber,
      .connectorPunctuation], range '\u200c' '\u200d']

/-- The decimal digits of Unicode. -/
def decimalDigits : CharSet := ofCategories [.decimalNumber]

/-- The blanks of Unicode. -/
def blanks : CharSet := table whiteSpace

/-! ### Looking up a name -/

/-- The set of a property that holds or does not hold of a character. -/
def binary? : String → Option CharSet
  | "asciihexdigit" | "ahex" => some asciiHexDigits
  | "alphabetic" | "alpha" => some alphabetic
  | "bidicontrol" | "bidic" => some (table bidiControl)
  | "cased" => some (union lowercase (union uppercase (ofCategories [.titlecaseLetter])))
  | "dash" => some (table dash)
  | "defaultignorablecodepoint" | "di" => some (table defaultIgnorable)
  | "deprecated" | "dep" => some (table deprecatedCharacter)
  | "emoji" => some (table emoji)
  | "emojicomponent" | "ecomp" => some (table emojiComponent)
  | "emojimodifier" | "emod" => some (range '🏻' '🏿')
  | "emojimodifierbase" | "ebase" => some (table emojiModifierBase)
  | "emojipresentation" | "epres" => some (table emojiPresentation)
  | "extendedpictographic" | "extpict" => some (table extendedPictographic)
  | "extender" | "ext" => some (table extender)
  | "graphemebase" | "grbase" => some graphemeBase
  | "graphemeextend" | "grext" => some graphemeExtend
  | "hexdigit" | "hex" => some (table hexDigit)
  | "idcontinue" | "idc" => some idContinue
  | "idstart" | "ids" => some idStart
  | "ideographic" | "ideo" => some (table ideographic)
  | "joincontrol" | "joinc" => some (range '\u200c' '\u200d')
  | "logicalorderexception" | "loe" => some (table logicalOrderException)
  | "lowercase" | "lower" => some lowercase
  | "math" => some (union (ofCategories [.mathSymbol]) (table otherMath))
  | "noncharactercodepoint" | "nchar" => some (table noncharacter)
  | "patternsyntax" | "patsyn" => some (table patternSyntax)
  | "patternwhitespace" | "patws" => some (table patternWhiteSpace)
  | "quotationmark" | "qmark" => some (table quotationMark)
  | "radical" => some (table radical)
  | "regionalindicator" | "ri" => some (range '🇦' '🇿')
  | "sentenceterminal" | "sterm" => some (table sentenceTerminal)
  | "softdotted" | "sd" => some (table softDotted)
  | "terminalpunctuation" | "term" => some (table terminalPunctuation)
  | "unifiedideograph" | "uideo" => some (table unifiedIdeograph)
  | "uppercase" | "upper" => some uppercase
  | "variationselector" | "vs" => some (table variationSelector)
  | "whitespace" | "wspace" | "space" => some (table whiteSpace)
  | "xidcontinue" | "xidc" => some (diff idContinue (table notXidContinue))
  | "xidstart" | "xids" => some (diff idStart (table notXidStart))
  | _ => none

/-- The set of a general category or of a family of them, and the three sets that
are treated as categories. -/
def category? : String → Option CharSet
  | "any" => some any
  | "assigned" => some (compl (ofCategories [.unassigned]))
  | "ascii" => some ascii
  | name =>
    match GeneralCategory.all.find? (·.names.contains name) with
    | some g => some (ofCategories [g])
    | none => (categoryFamily? name).map ofCategories

/-- The set of a script. -/
def script? (name : String) : Option CharSet :=
  (scripts.find? (·.isNamed name)).map fun s => table s.table

/-- The set of the characters used with a script. -/
def scriptUse? (name : String) : Option CharSet :=
  (scripts.find? (·.isNamed name)).map fun s =>
    diff (union (table s.table) (table s.sharedWith)) (table s.given)

/-- **The set that a single name stands for**: a property, else a category, else a
script. Three names that would abbreviate a property keep their older meaning as
categories. -/
def byName? (name : Text) : Option CharSet :=
  let name := normalize name
  let property := if name == "cf" || name == "sc" || name == "lc" then none else binary? name
  property <|> category? name <|> script? name

/-- The set that a property and a value stand for. -/
def byValue? (property value : Text) : Option CharSet :=
  match normalize property with
  | "gc" | "generalcategory" => category? (normalize value)
  | "sc" | "script" => script? (normalize value)
  | "scx" | "scriptextensions" => scriptUse? (normalize value)
  | _ => none

end GnuLint.Property
