import GnuLint.CommandLine.Request

/-!
# Words of the command line

A command line is a list of words. A word that begins with two hyphens names an option,
and one that begins with a single hyphen is a cluster of the letters of options. A switch
stands for itself, a setting takes a value: what follows it in its word, perhaps after an
equals sign, or else the next word, which must not look like an option. After a word of
two hyphens nothing is an option any more. All other words are files.

`rules` is a command of its own, but only as the first word; its options are those that
all commands have, and may come before and after what it is told to do.

* `GnuLint.CommandLine.Request.ofWords` – the request of a command line;
* `GnuLint.CommandLine.UsageError` – what can be wrong with one.
-/

namespace GnuLint.CommandLine

/-! ### Options -/

/-- An option without a value. -/
inductive Switch
  /-- Scripts are overwritten. -/
  | write
  /-- Nothing is written. -/
  | dryRun
  /-- The own rules of the user are ignored. -/
  | noUserRules
  /-- More is told about what goes on. -/
  | verbose
  /-- The program explains itself. -/
  | help
  /-- The program tells its version. -/
  | version
  deriving DecidableEq, Repr

/-- An option with a value. -/
inductive Setting
  /-- Where fixed scripts go. -/
  | output
  /-- The least severity. -/
  | severity
  /-- The form of the report. -/
  | format
  /-- The file with rules. -/
  | rules
  /-- The judge of fixed scripts. -/
  | validator
  deriving DecidableEq, Repr

/-- An option. -/
inductive Flag
  /-- One without a value. -/
  | switch (s : Switch)
  /-- One with a value. -/
  | setting (s : Setting)
  deriving DecidableEq, Repr

namespace Flag

/-- All options. -/
def all : List Flag :=
  [.switch .write, .setting .output, .switch .dryRun, .setting .severity, .setting .format,
    .setting .rules, .switch .noUserRules, .setting .validator, .switch .verbose,
    .switch .help, .switch .version]

/-- The name of an option. -/
def name : Flag → String
  | switch .write => "write"
  | switch .dryRun => "dry-run"
  | switch .noUserRules => "no-user-rules"
  | switch .verbose => "verbose"
  | switch .help => "help"
  | switch .version => "version"
  | setting .output => "output"
  | setting .severity => "severity"
  | setting .format => "format"
  | setting .rules => "rules"
  | setting .validator => "validator"

/-- The letter of an option, if it has one. -/
def letter? : Flag → Option Char
  | switch .write => some 'w'
  | switch .verbose => some 'v'
  | switch .help => some 'h'
  | switch .version => some 'V'
  | setting .output => some 'o'
  | setting .severity => some 's'
  | setting .rules => some 'r'
  | _ => none

/-- Whether all commands have an option. -/
def isCommon : Flag → Bool
  | switch .noUserRules | switch .verbose | switch .help | setting .rules => true
  | _ => false

end Flag

/-! ### Errors -/

/-- What can be wrong with a command line. -/
inductive UsageError
  /-- Nothing is asked for. -/
  | nothingGiven
  /-- A word has no meaning where it stands. -/
  | unexpected (word : Text)
  /-- A switch has a value. -/
  | strayValue (flag : Flag)
  /-- A setting has no value. -/
  | missingValue (flag : Flag)
  /-- The path of a script is empty. -/
  | emptyFile
  /-- The value of a setting is not one that it can have. -/
  | invalidValue (flag : Flag) (value : Text)
  /-- An option stands twice that may stand once. -/
  | repeated (flag : Flag)
  /-- Scripts would be overwritten and written elsewhere. -/
  | conflicting
  /-- It is not said what to do with the rules. -/
  | missingCommand
  deriving DecidableEq, Repr

/-- The words for what is wrong with a command line. -/
def UsageError.message : UsageError → String
  | nothingGiven => "nothing to do"
  | unexpected word => "unexpected argument '" ++ String.ofList word ++ "' found"
  | strayValue flag => "unexpected value for '--" ++ flag.name ++ "'"
  | missingValue flag => "a value is required for '--" ++ flag.name ++ "' but none was supplied"
  | emptyFile => "a value is required for '[FILES]...' but none was supplied"
  | invalidValue flag value =>
    "invalid value '" ++ String.ofList value ++ "' for '--" ++ flag.name ++ "'"
  | repeated flag => "the argument '--" ++ flag.name ++ "' cannot be used multiple times"
  | conflicting => "the argument '--write' cannot be used with '--output'"
  | missingCommand => "'rules' requires a subcommand but one was not provided"

/-- What ends the reading of a command line. -/
inductive Halt
  /-- Something is wrong. -/
  | refused (e : UsageError)
  /-- The program is to explain itself, whatever follows. -/
  | help
  /-- The program is to tell its version, whatever follows. -/
  | version
  deriving DecidableEq, Repr

/-! ### What is given -/

/-- What a command line gives. -/
structure Given where
  /-- The scripts. -/
  files : List Path := []
  /-- Whether scripts are overwritten. -/
  write : Bool := false
  /-- Whether nothing is written. -/
  dryRun : Bool := false
  /-- Whether the own rules of the user are ignored. -/
  noUserRules : Bool := false
  /-- Whether more is told. -/
  verbose : Bool := false
  /-- Where fixed scripts go. -/
  output : Option Path := none
  /-- The least severity. -/
  severity : Option Severity := none
  /-- The form of the report. -/
  format : Option ReportFormat := none
  /-- The file with rules. -/
  rules : Option Path := none
  /-- The judge of fixed scripts. -/
  judge : Option Judge := none
  deriving DecidableEq, Repr

namespace Given

/-- What is given with one more script. -/
def addFile (g : Given) (word : Text) : Except Halt Given :=
  if word.isEmpty then .error (.refused .emptyFile)
  else .ok { g with files := g.files ++ [⟨word⟩] }

/-- What is given with one more switch. -/
def raise (g : Given) (s : Switch) : Except Halt Given :=
  let once (raised : Bool) (g' : Given) : Except Halt Given :=
    if raised then .error (.refused (.repeated (.switch s))) else .ok g'
  match s with
  | .write => once g.write { g with write := true }
  | .dryRun => once g.dryRun { g with dryRun := true }
  | .noUserRules => once g.noUserRules { g with noUserRules := true }
  | .verbose => .ok { g with verbose := true }
  | .help => .error .help
  | .version => .error .version

/-- The value of a setting that has none before; `read` gives the meaning of its text. -/
def settle {α : Type} (s : Setting) (before : Option α) (read : Text → Option α)
    (value : Text) : Except Halt (Option α) :=
  match read value with
  | none => .error (.refused (.invalidValue (.setting s) value))
  | some a =>
    if before.isSome then .error (.refused (.repeated (.setting s))) else .ok (some a)

/-- The path that a text means; an empty one means none. -/
def readPath (value : Text) : Option Path := if value.isEmpty then none else some ⟨value⟩

/-- What is given with one more setting. -/
def assign (g : Given) (s : Setting) (value : Text) : Except Halt Given :=
  match s with
  | .output => return { g with output := ← settle s g.output readPath value }
  | .rules => return { g with rules := ← settle s g.rules readPath value }
  | .severity =>
    return { g with
      severity := ← settle s g.severity (fun t => Severity.ofName? (String.ofList t)) value }
  | .format =>
    return { g with
      format := ← settle s g.format (fun t => ReportFormat.ofName? (String.ofList t)) value }
  | .validator =>
    return { g with
      judge := ← settle s g.judge (fun t => Judge.ofName? (String.ofList t)) value }

end Given

/-! ### Reading words -/

/-- A command, as far as its words are concerned. -/
inductive Command
  /-- The program itself, which takes files and has all options. -/
  | check
  /-- One that takes no files and has only the common options. -/
  | plain
  deriving DecidableEq, Repr

/-- Whether a command has an option. -/
def Command.offers : Command → Flag → Bool
  | check, _ => true
  | plain, flag => flag.isCommon

/-- The option of a command that has a name. -/
def Command.byName? (c : Command) (name : Text) : Option Flag :=
  Flag.all.find? fun flag => c.offers flag && flag.name.toList == name

/-- The option of a command that has a letter. -/
def Command.byLetter? (c : Command) (letter : Char) : Option Flag :=
  Flag.all.find? fun flag => c.offers flag && flag.letter? == some letter

/-- Whether a word looks like an option. -/
def looksLikeFlag : Text → Bool
  | '-' :: _ :: _ => true
  | _ => false

/-- What is given with a cluster of letters, and the setting whose value the next word has
to be. -/
def readCluster (c : Command) : Given → Text → Except Halt (Given × Option Setting)
  | g, [] => .ok (g, none)
  | g, letter :: rest =>
    match c.byLetter? letter with
    | none => .error (.refused (.unexpected ['-', letter]))
    | some (.switch s) => do readCluster c (← g.raise s) rest
    | some (.setting s) =>
      match rest with
      | [] => .ok (g, some s)
      | '=' :: value => do return (← g.assign s value, none)
      | value => do return (← g.assign s value, none)

/-- The name in a word after two hyphens, and the value in it, if it has one. -/
def splitLong (word : Text) : Text × Option Text :=
  match word.span (· != '=') with
  | (name, _ :: value) => (name, some value)
  | (name, []) => (name, none)

/-- What is given with the option of a word after two hyphens, and the setting whose value
the next word has to be. -/
def readLong (c : Command) (g : Given) (word : Text) :
    Except Halt (Given × Option Setting) :=
  let (name, value) := splitLong word
  match c.byName? name, value with
  | none, _ => .error (.refused (.unexpected ('-' :: '-' :: word)))
  | some (.switch s), none => do return (← g.raise s, none)
  | some (.switch s), some _ => .error (.refused (.strayValue (.switch s)))
  | some (.setting s), some value => do return (← g.assign s value, none)
  | some (.setting s), none => .ok (g, some s)

/-- A word that a command does not take itself, and the words after it. -/
abbrev Leftover := Option (Text × List Text)

/-- What is given with some words after which there are no options. -/
def readFiles (c : Command) : Given → List Text → Except Halt Given
  | g, [] => .ok g
  | g, word :: rest =>
    match c with
    | .check => do readFiles c (← g.addFile word) rest
    | .plain => .error (.refused (.unexpected word))

/-- **What some words give to a command**; a command that takes no files leaves the first
word that is not an option, and those after it. While a setting waits for its value, the
next word has to be it. -/
def readWords (c : Command) :
    Given → (waiting : Option Setting) → List Text → Except Halt (Given × Leftover)
  | g, none, [] => .ok (g, none)
  | _, some s, [] => .error (.refused (.missingValue (.setting s)))
  | g, some s, word :: rest =>
    if looksLikeFlag word then .error (.refused (.missingValue (.setting s)))
    else do readWords c (← g.assign s word) none rest
  | g, none, ['-', '-'] :: rest => do return (← readFiles c g rest, none)
  | g, none, ('-' :: '-' :: word) :: rest => do
    let (g, waiting) ← readLong c g word
    readWords c g waiting rest
  | g, none, ('-' :: letter :: letters) :: rest => do
    let (g, waiting) ← readCluster c g (letter :: letters)
    readWords c g waiting rest
  | g, none, word :: rest =>
    match c with
    | .check => do readWords c (← g.addFile word) none rest
    | .plain => .ok (g, some (word, rest))

/-! ### Requests -/

/-- Where fixed scripts go, according to what is given. -/
def Given.destination (g : Given) : Option Destination :=
  match g.output with
  | some path => some (.output path (g.files.length = 1))
  | none => if g.write then some .inPlace else none

/-- The request to check scripts with what is given. -/
def Given.checkRequest (g : Given) : CheckRequest where
  files := g.files
  destination := g.destination
  dryRun := g.dryRun
  least := g.severity.getD .warning
  format := g.format.getD .listing
  rules := ⟨g.rules, g.noUserRules⟩
  judge := g.judge.getD .shell

/-- The request of a command line that does not begin with a command. -/
def checkOfWords (words : List Text) : Except Halt Request := do
  let (g, _) ← readWords .check {} none words
  if g = {} then .error (.refused .nothingGiven)
  else if g.write && g.output.isSome then .error (.refused .conflicting)
  else return .check g.checkRequest

/-- The words of which an explanation may be asked for. -/
def topics : List (List Text) :=
  [[], ["help"], ["rules"], ["rules", "help"], ["rules", "list"], ["rules", "validate"]].map
    (·.map String.toList)

/-- What ends the reading after a request for an explanation of some words. -/
def explain (words : List Text) : Halt :=
  if topics.elem words then .help
  else .refused (.unexpected words.flatten)

/-- The request of what follows the command for rules. Of two files with rules, the one
that stands later counts. -/
def rulesOfWords (words : List Text) : Except Halt Request := do
  let (early, leftover) ← readWords .plain {} none words
  match leftover with
  | none => .error (.refused .missingCommand)
  | some (word, rest) =>
    let request ← match String.ofList word with
      | "list" => .ok Request.listRules
      | "validate" => .ok Request.validateRules
      | "help" => .error (explain ("rules".toList :: rest))
      | _ => .error (.refused (.unexpected word))
    let (late, leftover) ← readWords .plain {} none rest
    match leftover with
    | some (word, _) => .error (.refused (.unexpected word))
    | none =>
      return request ⟨late.rules.or early.rules, early.noUserRules || late.noUserRules⟩

/-- What a command line asks for, or what ends its reading. -/
def readRequest : List Text → Except Halt Request
  | [] => checkOfWords []
  | word :: rest =>
    match String.ofList word with
    | "rules" => rulesOfWords rest
    | "help" => .error (explain rest)
    | _ => checkOfWords (word :: rest)

/-- **The request of a command line.** -/
def Request.ofWords (words : List Text) : Except UsageError Request :=
  match readRequest words with
  | .ok r => .ok r
  | .error .help => .ok .help
  | .error .version => .ok .version
  | .error (.refused e) => .error e

end GnuLint.CommandLine
