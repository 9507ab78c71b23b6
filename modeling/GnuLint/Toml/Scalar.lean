import GnuLint.Text.Basic
import GnuLint.Toml.Value

/-!
# TOML scalars

Truth values, integers, numbers with a fraction or an exponent, dates and times are
written without quotes, and each is recognised from the whole word. An underscore may
stand between two digits. An integer has to fit into 128 bits, and a number with a
fraction or an exponent must not exceed the largest double-precision number; dates and
times have to exist on the calendar and the clock, up to a leap second.
-/

namespace GnuLint.Toml.Scalar

/-! ### Digits -/

/-- The value of a digit in a base of at most sixteen. -/
def digit? (base : Nat) (c : Char) : Option Nat :=
  let n :=
    if c.isDigit then some (c.toNat - '0'.toNat)
    else if 'a' ≤ c ∧ c ≤ 'f' then some (c.toNat - 'a'.toNat + 10)
    else if 'A' ≤ c ∧ c ≤ 'F' then some (c.toNat - 'A'.toNat + 10)
    else none
  n.filter (· < base)

/-- The digits of a word that consists of digits, with single underscores between them. -/
def digits? (base : Nat) : Text → Option (List Nat)
  | [] => none
  | [c] => (digit? base c).map ([·])
  | c :: '_' :: s => do return (← digit? base c) :: (← digits? base s)
  | c :: s => do return (← digit? base c) :: (← digits? base s)

/-- The number that some digits write. -/
def value (base : Nat) (digits : List Nat) : Nat := digits.foldl (fun n d => base * n + d) 0

/-- The number of a word of decimal digits without a needless zero in front. -/
def decimal? (s : Text) : Option Nat := do
  let ds ← digits? 10 s
  if ds.length > 1 && ds.head? == some 0 then none else some (value 10 ds)

/-- A word without its sign, and whether the sign was a minus. -/
def splitSign : Text → Bool × Text
  | '-' :: s => (true, s)
  | '+' :: s => (false, s)
  | s => (false, s)

/-! ### Numbers -/

/-- The integer that a word writes, whatever its size. -/
def integer? (s : Text) : Option Int :=
  match s with
  | '0' :: 'x' :: s => (digits? 16 s).map fun ds => (value 16 ds : Int)
  | '0' :: 'o' :: s => (digits? 8 s).map fun ds => (value 8 ds : Int)
  | '0' :: 'b' :: s => (digits? 2 s).map fun ds => (value 2 ds : Int)
  | s =>
    let (negative, s) := splitSign s
    (decimal? s).map fun n => if negative then -(n : Int) else n

/-- Whether an integer is in range. -/
def inRange (n : Int) : Bool :=
  -(Nat.pow 2 127 : Int) ≤ n && n < (Nat.pow 2 128 : Int)

/-- The parts of a word that writes a number with a fraction or an exponent: the digits
before and after the point, and the exponent. -/
def floatParts? (s : Text) : Option (Nat × List Nat × Int) := do
  let (_, s) := splitSign s
  let (whole, rest) := s.span fun c => c != '.' && c != 'e' && c != 'E'
  let n ← decimal? whole
  match rest with
  | '.' :: rest =>
    let (fraction, rest) := rest.span fun c => c != 'e' && c != 'E'
    let ds ← digits? 10 fraction
    match rest with
    | [] => some (n, ds, 0)
    | _ :: s => return (n, ds, ← exponent? s)
  | _ :: s => return (n, [], ← exponent? s)
  | [] => none
where
  exponent? (s : Text) : Option Int := do
    let (negative, s) := splitSign s
    let n := value 10 (← digits? 10 s)
    return if negative then -(n : Int) else n

/-- Whether a number, given by its digits and its exponent, rounds to a finite
double-precision number. -/
def isFinite (whole : Nat) (fraction : List Nat) (exponent : Int) : Bool :=
  let mantissa := fraction.foldl (fun n d => 10 * n + d) whole
  let scale := exponent - fraction.length
  let bound := Nat.pow 2 1024 - Nat.pow 2 970
  if mantissa = 0 then true
  else if scale < 0 then
    -- below the bound as soon as the power of ten outgrows the mantissa
    if scale.natAbs > 4 * (Nat.log2 mantissa + 1) then true
    else mantissa < bound * Nat.pow 10 scale.natAbs
  else scale ≤ 400 && mantissa * Nat.pow 10 scale.toNat < bound

/-! ### Dates and times -/

/-- The number of exactly two digits, and what follows. -/
def twoDigits? : Text → Option (Nat × Text)
  | a :: b :: s => do return (10 * (← digit? 10 a) + (← digit? 10 b), s)
  | _ => none

/-- The number of days of a month. -/
def daysIn (year month : Nat) : Nat :=
  if month = 2 then
    if year % 4 = 0 ∧ (year % 100 ≠ 0 ∨ year % 400 = 0) then 29 else 28
  else if month = 4 ∨ month = 6 ∨ month = 9 ∨ month = 11 then 30
  else 31

/-- What follows a date. -/
def afterDate? (s : Text) : Option Text := do
  let (century, s) ← twoDigits? s
  let (year, s) ← twoDigits? s
  let '-' :: s := s | none
  let (month, s) ← twoDigits? s
  let '-' :: s := s | none
  let (day, s) ← twoDigits? s
  if 1 ≤ month ∧ month ≤ 12 ∧ 1 ≤ day ∧ day ≤ daysIn (100 * century + year) month then some s
  else none

/-- What follows hours and minutes. -/
def afterMinutes? (s : Text) : Option Text := do
  let (hour, s) ← twoDigits? s
  let ':' :: s := s | none
  let (minute, s) ← twoDigits? s
  if hour ≤ 23 ∧ minute ≤ 59 then some s else none

/-- What follows a time of day; seconds and their fraction may be missing. -/
def afterTime? (s : Text) : Option Text := do
  let s ← afterMinutes? s
  match s with
  | ':' :: s =>
    let (second, s) ← twoDigits? s
    if second > 60 then none
    else match s with
      | '.' :: s =>
        let (fraction, s) := s.span Char.isDigit
        if fraction.isEmpty then none else some s
      | s => some s
  | s => some s

/-- Whether a word is the difference of a local time from the universal one. -/
def isOffset : Text → Bool
  | ['Z'] | ['z'] => true
  | '+' :: s | '-' :: s => afterMinutes? s == some []
  | _ => false

/-- Whether a word is a date, a time of day, or both. -/
def isDateTime (s : Text) : Bool :=
  match afterDate? s with
  | some [] => true
  | some (c :: s) =>
    if c == 'T' || c == 't' || c == ' ' then
      match afterTime? s with
      | some [] => true
      | some s => isOffset s
      | none => false
    else false
  | none => afterTime? s == some []

/-! ### Words -/

/-- **The value of a word** written without quotes. -/
def ofWord (s : Text) : Except Error Value :=
  let source := String.ofList s
  let unsigned := (splitSign s).2
  if s == "true".toList then .ok (.boolean true)
  else if s == "false".toList then .ok (.boolean false)
  else if unsigned == "inf".toList || unsigned == "nan".toList then .ok (.float source)
  else match integer? s with
    | some n => if inRange n then .ok (.integer n) else .error .range
    | none =>
      match floatParts? s with
      | some (whole, fraction, exponent) =>
        if isFinite whole fraction exponent then .ok (.float source) else .error .range
      | none => if isDateTime s then .ok (.dateTime source) else .error .scalar

/-- Whether a character can stand in a word. -/
def isWordChar (c : Char) : Bool :=
  c.isAlphanum || c == '_' || c == '-' || c == '+' || c == '.' || c == ':'

/-- The word at the beginning of a text, and what follows. A date goes on with a time of
day after a single space. -/
def splitWord (s : Text) : Text × Text :=
  let (word, rest) := s.span isWordChar
  match rest with
  | ' ' :: c :: _ =>
    if c.isDigit && afterDate? word == some [] then
      let (time, rest) := (rest.drop 1).span isWordChar
      (word ++ ' ' :: time, rest)
    else (word, rest)
  | _ => (word, rest)

end GnuLint.Toml.Scalar
