import PluginKit.Toml.Scalar

/-!
# `PluginKit.Toml.Document`: reading documents

A document is a row of statements, each on lines of its own: a value under a key, the header of a
table, or the header of a new table in an array of tables. The statements are read first and then
carried out one after the other.

* `value`: reads a value.
* `Statement.readAll`: reads the statements.
* `Document.read`: the table of a document; none if it is malformed or contradicts itself.
-/

set_option autoImplicit false

namespace PluginKit

namespace Toml

/-! ### Blanks and comments -/

def skipBlanks (s : List Char) : List Char := s.dropWhile Text.isSpace

/-- What follows a comment, if one stands here: the rest from the end of the line on. -/
def skipComment : List Char → List Char
  | '#' :: rest => rest.dropWhile isPlain
  | s => s

/-- What follows the end of a line, which may have blanks and a comment before it. -/
def endLine? (s : List Char) : Option (List Char) :=
  match skipComment (skipBlanks s) with
  | [] => some []
  | rest => Text.newline? rest

/-- What follows blanks, comments and line breaks. `fuel` bounds the number of lines. -/
def skipLines : Nat → List Char → List Char
  | 0, s => skipBlanks s
  | fuel + 1, s =>
    match Text.newline? (skipComment (skipBlanks s)) with
    | some rest => skipLines fuel rest
    | none => skipBlanks s

/-! ### Keys -/

/-- The characters of keys without quotes. -/
def isKeyChar (c : Char) : Bool := c.isAlphanum || c == '-' || c == '_'

/-- A key without dots. -/
def simpleKey : List Char → Option (String × List Char)
  | '"' :: rest => (Text.readLine ('"' :: rest)).map fun k => (String.ofList k.1, k.2)
  | '\'' :: rest => (Text.readLine ('\'' :: rest)).map fun k => (String.ofList k.1, k.2)
  | s =>
    if (s.takeWhile isKeyChar).isEmpty then none
    else some (String.ofList (s.takeWhile isKeyChar), s.dropWhile isKeyChar)

/-- What dots join in a key: the keys of the tables on the way, and the last one. -/
structure Key where
  tables : List String
  last : String
  deriving DecidableEq, Repr

namespace Key

/-- All parts of the key. -/
def parts (k : Key) : List String := k.tables ++ [k.last]

/-- Reads a key of at most so many parts, with blanks around each. -/
def readUpTo : Nat → List Char → Option (Key × List Char)
  | 0, _ => none
  | most + 1, s => do
    let (k, rest) ← simpleKey (skipBlanks s)
    match skipBlanks rest with
    | '.' :: rest =>
      let (key, rest) ← readUpTo most rest
      return (⟨k :: key.tables, key.last⟩, rest)
    | rest => return (⟨[], k⟩, rest)

end Key

/-- How many parts a key may have, and how deep arrays and tables may stand in each other. -/
def mostNested : Nat := 79

def Key.read (s : List Char) : Option (Key × List Char) := Key.readUpTo mostNested s

/-! ### Values -/

/-- The rest of an array whose elements are read by `value`. A comma may follow the last one. `fuel`
bounds the number of elements. -/
def items (value : List Char → Option (Value × List Char)) :
    Nat → List Char → Option (List Value × List Char)
  | 0, _ => none
  | fuel + 1, s =>
    match skipLines s.length s with
    | ']' :: rest => some ([], rest)
    | s => do
      let (v, rest) ← value s
      match skipLines rest.length rest with
      | ']' :: rest => return ([v], rest)
      | ',' :: rest =>
        let (vs, rest) ← items value fuel rest
        return (v :: vs, rest)
      | _ => none

/-- The rest of a table between braces, after the entries in `t`. `fuel` bounds the number of
entries. -/
def entries (value : List Char → Option (Value × List Char)) :
    Nat → Table → List Char → Option (Table × List Char)
  | 0, _, _ => none
  | fuel + 1, t, s => do
    match ← Key.read s with
    | (key, '=' :: rest) =>
      let (v, rest) ← value (skipBlanks rest)
      let t ← t.insert? key.tables key.last v
      match skipBlanks rest with
      | ',' :: rest => entries value fuel t rest
      | '\x7d' :: rest => return (t, rest)
      | _ => none
    | _ => none

/-- A table between braces, which stands on one line and has no comma after the last entry. -/
def inlineTable (value : List Char → Option (Value × List Char)) (s : List Char) :
    Option (Table × List Char) :=
  match skipBlanks s with
  | '\x7d' :: rest => some ([], rest)
  | s => entries value (s.length + 1) [] s

/-- A text, a number, a truth value or a date. -/
def plainValue : List Char → Option (Value × List Char)
  | '"' :: rest => (Text.read ('"' :: rest)).map fun t => (.text (String.ofList t.1), t.2)
  | '\'' :: rest => (Text.read ('\'' :: rest)).map fun t => (.text (String.ofList t.1), t.2)
  | s => Scalar.read s

/-- A value with arrays and tables in each other at most so deep. -/
def valueUpTo : Nat → List Char → Option (Value × List Char)
  | 0, s => plainValue s
  | depth + 1, s =>
    match s with
    | '[' :: rest =>
      (items (valueUpTo depth) (rest.length + 1) rest).map fun a => (.array a.1, a.2)
    | '\x7b' :: rest =>
      (inlineTable (valueUpTo depth) rest).map fun t => (.table .inline t.1, t.2)
    | s => plainValue s

def value (s : List Char) : Option (Value × List Char) := valueUpTo mostNested s

/-! ### Statements -/

/-- What a line of a document does. -/
inductive Statement where
  | pair (key : Key) (v : Value)
  | header (key : Key)
  /-- A header between double brackets. -/
  | item (key : Key)
  deriving Repr

namespace Statement

/-- Reads a statement. -/
def read : List Char → Option (Statement × List Char)
  | '[' :: '[' :: rest => do
    match ← Key.read rest with
    | (key, ']' :: ']' :: rest) => return (.item key, rest)
    | _ => none
  | '[' :: rest => do
    match ← Key.read rest with
    | (key, ']' :: rest) => return (.header key, rest)
    | _ => none
  | s => do
    match ← Key.read s with
    | (key, '=' :: rest) =>
      let (v, rest) ← value (skipBlanks rest)
      return (.pair key v, rest)
    | _ => none

/-- Reads all statements, and lines without one. `fuel` bounds the number of lines. -/
def readAll : Nat → List Char → Option (List Statement)
  | 0, _ => none
  | fuel + 1, s =>
    match skipBlanks s with
    | [] => some []
    | s =>
      match endLine? s with
      | some rest => readAll fuel rest
      | none => do
        let (statement, rest) ← read s
        let rest ← endLine? rest
        return statement :: (← readAll fuel rest)

end Statement

/-! ### Documents -/

/-- A document up to some statement: its tables, and the header that stands. -/
structure Document where
  table : Table
  header : List String
  deriving Repr

namespace Document

def empty : Document := ⟨[], []⟩

/-- Carries a statement out. -/
def step (d : Document) : Statement → Option Document
  | .pair key v => (d.table.insertBelow? d.header key.tables key.last v).map (⟨·, d.header⟩)
  | .header key => (d.table.open? key.tables key.last).map (⟨·, key.parts⟩)
  | .item key => (d.table.append? key.tables key.last).map (⟨·, key.parts⟩)

/-- The table that some statements give. -/
def ofStatements? (statements : List Statement) : Option Table :=
  (statements.foldlM step empty).map (·.table)

/-- Leaves out a byte order mark. -/
def skipMark : List Char → List Char
  | '\uFEFF' :: rest => rest
  | s => s

/-- Reads a document. -/
def read (s : String) : Option Table := do
  let cs := skipMark s.toList
  ofStatements? (← Statement.readAll (cs.length + 1) cs)

end Document

end Toml

end PluginKit
