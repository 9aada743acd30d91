/-!
# `PluginKit.Toml.Value`: what a TOML document says

* `Value`, `Table`: the values, and the tables that hold them under keys.
* `Table.descend?`: changes the table that a row of keys leads to.
* `Table.insert?`, `Table.open?`, `Table.append?`: what the three statements of a document do to the
  tables before them.
-/

set_option autoImplicit false

namespace PluginKit

namespace Toml

/-- How a table came about, which decides what may be added to it. -/
inductive Origin where
  /-- By a header of its own, or as the document itself. -/
  | header
  /-- By a header of a table below it. -/
  | implied
  /-- By a dotted key. -/
  | dotted
  /-- Between braces; nothing can be added. -/
  | inline
  deriving DecidableEq, Repr

/-- A value. Of floats and dates only the spelling is kept. -/
inductive Value where
  | text (s : String)
  | integer (n : Int)
  | float (spelling : String)
  | boolean (b : Bool)
  | datetime (spelling : String)
  | array (items : List Value)
  /-- An array of tables that have headers of their own. -/
  | tables (items : List (List (String × Value)))
  | table (origin : Origin) (entries : List (String × Value))
  deriving Repr

/-- Values under keys, in the order of their appearance. -/
abbrev Table := List (String × Value)

namespace Table

/-- Puts a value in the place of the one under a key. -/
def replace (t : Table) (key : String) (v : Value) : Table :=
  t.map fun e => if e.1 = key then (key, v) else e

/-- Changes the table at the end of a row of keys, of an array of tables always the last one. Tables
that are not there yet come about on the way. A dotted key must not pass through a table that has a
header, and nothing can pass through a value or a table between braces. -/
def descend? (dotted : Bool) (change : Origin → Table → Option Table) (origin : Origin)
    (t : Table) : List String → Option Table
  | [] => change origin t
  | key :: keys =>
    match t.lookup key with
    | none =>
      let origin := if dotted then .dotted else .implied
      (descend? dotted change origin [] keys).map fun below => t ++ [(key, .table origin below)]
    | some (.table .inline _) => none
    | some (.table origin below) =>
      if dotted && origin = .header then none
      else (descend? dotted change origin below keys).map fun below =>
        t.replace key (.table origin below)
    | some (.tables items) =>
      (descend? dotted change .header (items.getLast?.getD []) keys).map fun below =>
        t.replace key (.tables (items.dropLast ++ [below]))
    | some _ => none

/-- Puts a value under a new key, which may be dotted. The table that a dotted key leads to must
have come about by dotted keys. -/
def insert? (t : Table) (keys : List String) (last : String) (v : Value) : Option Table :=
  descend? true (fun origin t =>
    if origin = .dotted ↔ keys = [] then none
    else if (t.lookup last).isSome then none
    else some (t ++ [(last, v)])) .header t keys

/-- Gives a table its header. No other table or value may have the key, except a table that came
about by the headers below it. -/
def open? (t : Table) (keys : List String) (last : String) : Option Table :=
  descend? false (fun _ t =>
    match t.lookup last with
    | none => some (t ++ [(last, .table .header [])])
    | some (.table .implied below) => some (t.replace last (.table .header below))
    | some _ => none) .header t keys

/-- Adds an empty table to an array of tables. -/
def append? (t : Table) (keys : List String) (last : String) : Option Table :=
  descend? false (fun _ t =>
    match t.lookup last with
    | none => some (t ++ [(last, .tables [[]])])
    | some (.tables items) => some (t.replace last (.tables (items ++ [[]])))
    | some _ => none) .header t keys

/-- Puts a value under a new key of the table that a header leads to. -/
def insertBelow? (t : Table) (header keys : List String) (last : String) (v : Value) :
    Option Table :=
  descend? false (fun _ t => insert? t keys last v) .header t header

end Table

end Toml

end PluginKit
