import GnuLint.Files.Disk
import GnuLint.Rule.Catalog
import GnuLint.Rule.LoadError

/-!
# The rules in use

The rules in use are those of the catalogue, overridden by the rules of at most one file:
one that is asked for, or the user's own file if it is there and not disabled.
-/

namespace GnuLint

/-- The words that mean no, in small letters. -/
def wordsForNo : List String := ["", "0", "false", "no"]

/-- Whether the value of a switch turns it on: it does so unless it means no, in whatever
letters. -/
def isTruthy (value : String) : Bool :=
  !wordsForNo.elem (String.ofList (value.toList.map Char.toLower))

/-- **The file that overrides the catalogue**: the one that is asked for, whether it is there
or not, else the user's own one if it is there and not disabled. -/
def chooseOverride (disk : Disk) (userRules : Option Path) (disabled : Bool) :
    (requested : Option Path) → Option Path
  | some path => some path
  | none => if disabled then none else userRules.filter disk.hasPath

namespace RuleSet

/-- **The rules of a file.** -/
def ofFile (disk : Disk) (path : Path) : Except LoadError RuleSet :=
  match disk.readText path with
  | .error cause => .error (.unreadable path cause)
  | .ok text => (ofDocument text).mapError (.refused path)

/-- **The rules in use**, given the file that overrides the catalogue. -/
def load (disk : Disk) : (override : Option Path) → Except LoadError RuleSet
  | none => .ok Catalog.rules
  | some path => (ofFile disk path).map Catalog.rules.overriddenBy

end RuleSet

end GnuLint
