/-!
# TOML values

What a TOML document says: tables from keys to values, arrays, and scalars. A table
remembers how it came about, because that decides what may still be added to it:

* a table with a **header** of its own is only added to under that header;
* a table that is **implied** by the header of a table inside it may still get a header;
* a table that is implied by a **dotted** key may get more dotted keys, but no header;
* an **inline** table is complete once it is closed.

`GnuLint.Toml.Table.insert`, `GnuLint.Toml.Table.openTable` and
`GnuLint.Toml.Table.openElement` are the three ways to add to a table.
-/

namespace GnuLint.Toml

/-- How a table came about. -/
inductive TableKind
  /-- By a header of its own. -/
  | header
  /-- By the header of a table inside it. -/
  | implied
  /-- By a dotted key. -/
  | dotted
  /-- Between braces. -/
  | inline
  deriving DecidableEq, Repr

/-- A TOML value. -/
inductive Value
  /-- A string. -/
  | string (s : String)
  /-- An integer. -/
  | integer (n : Int)
  /-- A number with a fraction or an exponent, as it is written. -/
  | float (source : String)
  /-- A truth value. -/
  | boolean (b : Bool)
  /-- A date, a time of day or both, as it is written. -/
  | dateTime (source : String)
  /-- An array, by its elements between brackets. -/
  | array (items : List Value)
  /-- An array of tables, by the headers of its elements. -/
  | tables (items : List Value)
  /-- A table. -/
  | table (kind : TableKind) (entries : List (String × Value))

/-- The entries of a table, in order. -/
abbrev Table := List (String × Value)

/-- A cause for which a text is not a document, or not one of rules. -/
inductive Error
  /-- The text does not go on as a document does. -/
  | malformed
  /-- A string is not closed, or holds a control character. -/
  | string
  /-- A backslash stands before something that it gives no meaning. -/
  | escape
  /-- A scalar is no number, truth value, date or time. -/
  | scalar
  /-- A number is out of range. -/
  | range
  /-- Arrays and tables are nested too deeply. -/
  | tooDeep
  /-- A key is defined twice. -/
  | duplicateKey (key : String)
  /-- A key leads into a value that is no table. -/
  | notATable (key : String)
  /-- A value is not of the type that is needed. -/
  | wrongType (expected : String)
  deriving DecidableEq, Repr

/-- The words for a cause. -/
def Error.message : Error → String
  | malformed => "malformed document"
  | string => "invalid string"
  | escape => "invalid escape sequence"
  | scalar => "invalid value"
  | range => "number out of range"
  | tooDeep => "nested too deeply"
  | duplicateKey key => "duplicate key " ++ key
  | notATable key => "not a table: " ++ key
  | wrongType expected => "invalid type, expected " ++ expected

namespace Table

/-! ### Looking up and changing entries -/

/-- The value of a key. -/
def get? (t : Table) (key : String) : Option Value := t.lookup key

/-- The table with the value of a key made from the one before, if there was one. -/
def alter (key : String) (f : Option Value → Except Error Value) : Table → Except Error Table
  | [] => do
    let value ← f none
    return [(key, value)]
  | (k, v) :: t =>
    if k = key then do
      let value ← f (some v)
      return (k, value) :: t
    else do
      let rest ← alter key f t
      return (k, v) :: rest

/-- A change of the table at the end of a path. Tables missing on the way are made; of an
array of tables, the last element is meant. A path of dotted keys does not enter a table
that has a header, and no path enters an inline table. -/
def changeAt (dotted : Bool) (f : TableKind → Table → Except Error Table) :
    List String → TableKind → Table → Except Error Table
  | [], kind, t => f kind t
  | key :: path, _, t => t.alter key fun
    | none =>
      let kind := if dotted then .dotted else .implied
      (changeAt dotted f path kind []).map (.table kind)
    | some (.table kind entries) =>
      if kind = .inline || (dotted && kind = .header) then .error (.duplicateKey key)
      else (changeAt dotted f path kind entries).map (.table kind)
    | some (.tables items) =>
      match items.getLast? with
      | some (.table kind entries) =>
        (changeAt dotted f path kind entries).map fun entries =>
          .tables (items.dropLast ++ [.table kind entries])
      | _ => .error (.notATable key)
    | some _ => .error (.notATable key)

/-! ### Adding to a table -/

/-- The table with a value under a dotted key: the keys that lead to it, and the last. -/
def insert (path : List String) (key : String) (value : Value) (kind : TableKind) (t : Table) :
    Except Error Table :=
  changeAt true (fun kind t =>
    if (kind == .dotted) == path.isEmpty then .error (.duplicateKey key)
    else t.alter key fun
      | none => .ok value
      | some _ => .error (.duplicateKey key)) path kind t

/-- The table with a header for a table inside it. -/
def openTable (path : List String) (key : String) (t : Table) : Except Error Table :=
  changeAt false (fun _ t => t.alter key fun
    | none => .ok (.table .header [])
    | some (.table .implied entries) => .ok (.table .header entries)
    | some _ => .error (.duplicateKey key)) path .header t

/-- The table with a header for one more element of an array of tables. -/
def openElement (path : List String) (key : String) (t : Table) : Except Error Table :=
  changeAt false (fun _ t => t.alter key fun
    | none => .ok (.tables [.table .header []])
    | some (.tables items) => .ok (.tables (items ++ [.table .header []]))
    | some _ => .error (.duplicateKey key)) path .header t

/-- The table with a value under a dotted key, in the table whose header came last. -/
def insertUnder (current path : List String) (key : String) (value : Value) (t : Table) :
    Except Error Table :=
  changeAt false (insert path key value) current .header t

end Table

end GnuLint.Toml
