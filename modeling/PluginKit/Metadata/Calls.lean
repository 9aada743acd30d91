import PluginKit.Metadata

/-!
# `PluginKit.Metadata.Calls`: annotations behind pointers

The daemon's functions point to a table, to a key that ends at its first zero byte, and to the place
where a result goes. A pointer can be missing. Every function answers with a number, and only a call
that has found something writes where it was pointed to. The daemon counts tables as they are created
and destroyed.

* `Addition`, `Table.apply`: an annotation as it is added.
* `Getter`, `Table.read`: the functions that read a value, one for each kind.
* `Call`, `Answer`, `Books.call`: one call.
* `Books.run`: calls in a row.
-/

set_option autoImplicit false

namespace PluginKit

namespace Metadata

/-- A call that adds an annotation. The daemon is pointed to a key, and to a text if the value is one;
both end at their first zero byte. -/
inductive Addition where
  | text (key text : Bytes)
  | signed (key : Bytes) (n : Int64)
  | unsigned (key : Bytes) (n : UInt64)
  | double (key : Bytes) (x : Double)
  | boolean (key : Bytes) (b : Bool)
  deriving DecidableEq, Repr

/-- The functions that read a value. -/
inductive Getter where
  | string
  | signed
  | unsigned
  | double
  | boolean
  deriving DecidableEq, Repr

namespace Table

/-- The table after a call. -/
def apply (t : Table) : Addition → Table
  | .text key text => t.addText (Terminated.bytes key) (Terminated.bytes text)
  | .signed key n => t.add (Terminated.bytes key) (.signed n)
  | .unsigned key n => t.add (Terminated.bytes key) (.unsigned n)
  | .double key x => t.add (Terminated.bytes key) (.double x)
  | .boolean key b => t.add (Terminated.bytes key) (.boolean b)

/-- Reads a value with one of the functions. -/
def read (t : Table) (key : Bytes) : Getter → Except Unreadable MetaValue
  | .string => (t.getString key).map .string
  | .signed => (t.getSigned key).map .signed
  | .unsigned => (t.getUnsigned key).map .unsigned
  | .double => (t.getDouble key).map .double
  | .boolean => (t.getBoolean key).map .boolean

end Table

/-- A call of one of the daemon's functions. -/
inductive Call where
  | create
  | destroy (ref : Option Ref)
  /-- There is no addition where a key or a text is missing. -/
  | add (ref : Option Ref) (addition : Option Addition)
  | type (ref : Option Ref) (key : Option Bytes)
  /-- Asks for the keys. The flag says that there is a place for them. -/
  | toc (ref : Option Ref) (place : Bool)
  | get (getter : Getter) (ref : Option Ref) (key : Option Bytes)
  /-- Asks how many tables are alive. -/
  | live
  deriving DecidableEq, Repr

/-- What a call returns, and what it writes where it was pointed to. -/
inductive Answer where
  | table (ref : Ref)
  | nothing
  | status (code : Int)
  | keys (count : Int) (written : Option (List Bytes))
  | value (status : Int) (written : Option MetaValue)
  | live (count : Nat)
  deriving DecidableEq, Repr

/-- The tables, and how many of them the daemon takes to be alive. -/
structure Books where
  store : Store
  count : Nat
  deriving DecidableEq, Repr

namespace Books

def empty : Books := ⟨.empty, 0⟩

/-- The table that is pointed to. -/
def table? (b : Books) (ref : Option Ref) : Option Table := ref.bind b.store.find?

/-- The keys of a table, if there is one and a place for them. -/
def toc (t : Option Table) (place : Bool) : Answer :=
  match t with
  | none => .keys (-1) none
  | some t =>
    if place then .keys t.keys.length (if t.keys.isEmpty then none else some t.keys)
    else .keys (-1) none

/-- The number of the kind of a value, zero where there is none. -/
def typeOf (t : Option Table) (key : Option Bytes) : Answer :=
  match t, key with
  | some t, some key => .status (t.typeOf (Terminated.bytes key))
  | _, _ => .status 0

/-- A value that is read as one of the kinds. -/
def get (getter : Getter) (t : Option Table) (key : Option Bytes) : Answer :=
  match t, key with
  | some t, some key =>
    match t.read (Terminated.bytes key) getter with
    | .ok value => .value 0 (some value)
    | .error e => .value e.status none
  | _, _ => .value Unreadable.missing.status none

/-- The answer to a call, and what it leaves. -/
def call (b : Books) : Call → Answer × Books
  | .create => (.table b.store.create.1, ⟨b.store.create.2, b.count + 1⟩)
  | .destroy none => (.nothing, b)
  | .destroy (some ref) => (.nothing, ⟨b.store.destroy ref, b.count - 1⟩)
  | .add (some ref) (some addition) =>
    (.status 0, { b with store := b.store.update ref fun t => t.apply addition })
  | .add _ _ => (.status (-1), b)
  | .type ref key => (typeOf (b.table? ref) key, b)
  | .toc ref place => (toc (b.table? ref) place, b)
  | .get getter ref key => (get getter (b.table? ref) key, b)
  | .live => (.live b.count, b)

/-- The answers to calls in a row, from a daemon without tables, and what they leave. -/
def run (calls : List Call) : List Answer × Books :=
  calls.foldl (fun (answers, b) c => let (answer, b) := b.call c; (answers ++ [answer], b))
    ([], empty)

end Books

end Metadata

end PluginKit
