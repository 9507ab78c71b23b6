import GnuLint.Toml.Quoted

/-!
# TOML documents

A document is a sequence of lines, each of which is empty, a header, or a key with a
value; arrays and inline tables may run over several lines, with comments in between and
a comma after the last element. `GnuLint.Toml.parse` reads a document into one table.

Arrays and inline tables are nested at most eighty levels deep.
-/

namespace GnuLint.Toml

/-! ### Between the words -/

/-- The text without its leading blanks. -/
def skipBlanks (s : Text) : Text := s.dropWhile fun c => c == ' ' || c == '\t'

/-- The text without the blanks, newlines and comments in front of it, starting inside or
outside a comment. -/
def skipTrivia : (comment : Bool) → Text → Except Error Text
  | _, [] => .ok []
  | _, '\n' :: s => skipTrivia false s
  | _, '\r' :: '\n' :: s => skipTrivia false s
  | true, c :: s => if isPlain c then skipTrivia true s else .error .malformed
  | false, ' ' :: s => skipTrivia false s
  | false, '\t' :: s => skipTrivia false s
  | false, '#' :: s => skipTrivia true s
  | false, s => .ok s

/-- What follows the end of a line, which may hold a comment. -/
def afterLine (s : Text) : Except Error Text :=
  match skipBlanks s with
  | '#' :: s => afterComment s
  | s => ended s
where
  ended (s : Text) : Except Error Text :=
    if s.isEmpty then .ok [] else (afterNewline? s).elim (.error .malformed) .ok
  afterComment : Text → Except Error Text
    | [] => .ok []
    | c :: s => if isPlain c then afterComment s else ended (c :: s)

/-! ### Keys -/

/-- Whether a character may stand in a key without quotes. -/
def isBareKeyChar (c : Char) : Bool := c.isAlphanum || c == '_' || c == '-'

/-- A key, quoted or not, and what follows. -/
def simpleKey (s : Text) : Except Error (String × Text) :=
  match Quoted.onLine? s with
  | some quoted => quoted.map fun (key, rest) => (String.ofList key, rest)
  | none =>
    let (key, rest) := s.span isBareKeyChar
    if key.isEmpty then .error .malformed else .ok (String.ofList key, rest)

/-- Keys joined by dots – those that lead to the last one, and the last one – and what
follows them and the blanks after them. The bound counts keys. -/
def keyWithin : Nat → Text → Except Error (List String × String × Text)
  | 0, _ => .error .malformed
  | n + 1, s => do
    let (key, rest) ← simpleKey (skipBlanks s)
    match skipBlanks rest with
    | '.' :: rest =>
      let (path, last, rest) ← keyWithin n rest
      return (key :: path, last, rest)
    | rest => return ([], key, rest)

/-- Keys joined by dots. -/
def key (s : Text) : Except Error (List String × String × Text) := keyWithin (s.length + 1) s

/-! ### Values -/

/-- How deep arrays and inline tables may be nested. -/
def depthLimit : Nat := 80

mutual

/-- A value, and what follows. The bound counts steps; the depth is that of the arrays and
tables around the value. -/
def valueWithin : Nat → (depth : Nat) → Text → Except Error (Value × Text)
  | 0, _, _ => .error .malformed
  | n + 1, depth, s =>
    match Quoted.any? s with
    | some quoted => quoted.map fun (t, rest) => (.string (String.ofList t), rest)
    | none =>
      match s with
      | '[' :: s =>
        if depth ≥ depthLimit then .error .tooDeep
        else (itemsWithin n (depth + 1) s).map fun (items, rest) => (.array items, rest)
      | '\x7b' :: s =>
        if depth ≥ depthLimit then .error .tooDeep
        else
          (entriesWithin n (depth + 1) [] s).map fun (t, rest) => (.table .inline t, rest)
      | s =>
        let (word, rest) := Scalar.splitWord s
        (Scalar.ofWord word).map fun v => (v, rest)

/-- The elements of an array up to its closing bracket, and what follows it. -/
def itemsWithin : Nat → (depth : Nat) → Text → Except Error (List Value × Text)
  | 0, _, _ => .error .malformed
  | n + 1, depth, s => do
    match ← skipTrivia false s with
    | ']' :: rest => return ([], rest)
    | s =>
      let (item, rest) ← valueWithin n depth s
      match ← skipTrivia false rest with
      | ',' :: rest =>
        let (items, rest) ← itemsWithin n depth rest
        return (item :: items, rest)
      | ']' :: rest => return ([item], rest)
      | _ => .error .malformed

/-- The entries of an inline table up to its closing brace, after some that came before,
and what follows it. -/
def entriesWithin : Nat → (depth : Nat) → Table → Text → Except Error (Table × Text)
  | 0, _, _, _ => .error .malformed
  | n + 1, depth, t, s => do
    match ← skipTrivia false s with
    | '\x7d' :: rest => return (t, rest)
    | s =>
      let (path, last, rest) ← key s
      let '=' :: rest := rest | .error .malformed
      let (value, rest) ← valueWithin n depth (skipBlanks rest)
      let t ← t.insert path last value .inline
      match ← skipTrivia false rest with
      | ',' :: rest => entriesWithin n depth t rest
      | '\x7d' :: rest => return (t, rest)
      | _ => .error .malformed

end

/-- A value, and what follows. -/
def value (s : Text) : Except Error (Value × Text) := valueWithin (2 * s.length + 2) 0 s

/-! ### Lines -/

/-- The lines of a document, added to a table; `current` is the path of the last header.
The bound counts lines. -/
def linesWithin : Nat → (current : List String) → Table → Text → Except Error Table
  | 0, _, t, _ => .ok t
  | n + 1, current, t, s => do
    match skipBlanks s with
    | [] => return t
    | '[' :: '[' :: s =>
      let (path, last, rest) ← key s
      let ']' :: ']' :: rest := rest | .error .malformed
      let t ← t.openElement path last
      linesWithin n (path ++ [last]) t (← afterLine rest)
    | '[' :: s =>
      let (path, last, rest) ← key s
      let ']' :: rest := rest | .error .malformed
      let t ← t.openTable path last
      linesWithin n (path ++ [last]) t (← afterLine rest)
    | s =>
      if s.head? == some '#' || (afterNewline? s).isSome then
        linesWithin n current t (← afterLine s)
      else
        let (path, last, rest) ← key s
        let '=' :: rest := rest | .error .malformed
        let (v, rest) ← value (skipBlanks rest)
        let t ← t.insertUnder current path last v
        linesWithin n current t (← afterLine rest)

/-- **The table that a document writes**, or why it is no document. A byte order mark in
front does not count. -/
def parse (s : Text) : Except Error Table :=
  let s := if s.head? == some '\ufeff' then s.drop 1 else s
  linesWithin (s.length + 1) [] [] s

end GnuLint.Toml
