import PluginKit.Text.Bytes
import PluginKit.Value

/-!
# `PluginKit.Metadata`: annotations of a value list

The daemon keeps annotations in tables. Keys are bytes and keep the order in which they were first
added; a later value for a key replaces the earlier one. Tables are created and destroyed by
whoever fills them, so the daemon counts those that are alive.

* `put`: annotates with one more value.
* `Table.add`, `Table.find?`, `Table.keys`: one table.
* `Table.getString` and the other getters: reading a value as a kind.
* `Store`: all tables, with `create`, `destroy`, `update` and `live`.
-/

set_option autoImplicit false

namespace PluginKit

namespace Metadata

/-- The bytes of a key or text, without a terminating zero. -/
abbrev Bytes := List UInt8

/-- A table of annotations. -/
structure Table where
  entries : List (Bytes × MetaValue)
  deriving DecidableEq, Repr

/-- Why a value cannot be read. -/
inductive Unreadable where
  | otherKind
  | missing
  deriving DecidableEq, Repr

/-- The daemon's number for a failed reading. -/
def Unreadable.status : Unreadable → Int
  | .otherKind => -1
  | .missing => -2

/-- The daemon's number for the kind of a value. -/
def typeCode : MetaValue → Int
  | .string _ => 1
  | .signed _ => 2
  | .unsigned _ => 3
  | .double _ => 4
  | .boolean _ => 5

/-- Puts a value in place of the one that a key has, or at the end. -/
def put {κ : Type} [DecidableEq κ] (key : κ) (value : MetaValue) :
    List (κ × MetaValue) → List (κ × MetaValue)
  | [] => [(key, value)]
  | (k, v) :: rest => if k = key then (k, value) :: rest else (k, v) :: put key value rest

namespace Table

def empty : Table := ⟨[]⟩

def add (t : Table) (key : Bytes) (value : MetaValue) : Table := ⟨put key value t.entries⟩

/-- Texts are stored as text, whatever their bytes. -/
def addText (t : Table) (key : Bytes) (text : Bytes) : Table :=
  t.add key (.string (Utf8.decodeLossy text))

def find? (t : Table) (key : Bytes) : Option MetaValue := t.entries.lookup key

/-- The keys in the order in which they were first added. -/
def keys (t : Table) : List Bytes := t.entries.map Prod.fst

/-- The kind of a key's value, zero when there is none. -/
def typeOf (t : Table) (key : Bytes) : Int :=
  match t.find? key with
  | some v => typeCode v
  | none => 0

/-- Reads a value with a reading that fits one kind. -/
def get {α : Type} (t : Table) (key : Bytes) (reading : MetaValue → Option α) :
    Except Unreadable α :=
  match t.find? key with
  | none => .error .missing
  | some v =>
    match reading v with
    | some a => .ok a
    | none => .error .otherKind

/-- Reads a text. One with a zero character in it has no terminated form. -/
def getString (t : Table) (key : Bytes) : Except Unreadable String :=
  t.get key fun
    | .string s => if s.toList.contains '\x00' then none else some s
    | _ => none

def getSigned (t : Table) (key : Bytes) : Except Unreadable Int64 :=
  t.get key fun
    | .signed n => some n
    | _ => none

def getUnsigned (t : Table) (key : Bytes) : Except Unreadable UInt64 :=
  t.get key fun
    | .unsigned n => some n
    | _ => none

def getDouble (t : Table) (key : Bytes) : Except Unreadable Double :=
  t.get key fun
    | .double x => some x
    | _ => none

def getBoolean (t : Table) (key : Bytes) : Except Unreadable Bool :=
  t.get key fun
    | .boolean b => some b
    | _ => none

end Table

/-- Names a table while it is alive. -/
abbrev Ref := Nat

/-- The tables that are alive, and the next name. No two tables share a name, and the next one is
new. -/
structure Store where
  tables : List (Ref × Table)
  next : Ref
  distinct : (tables.map Prod.fst).Nodup
  fresh : ∀ ref ∈ tables.map Prod.fst, ref < next
  deriving DecidableEq, Repr

namespace Store

def empty : Store := ⟨[], 0, .nil, nofun⟩

/-- An empty table under a new name. -/
def create (s : Store) : Ref × Store :=
  (s.next,
    { tables := s.tables ++ [(s.next, Table.empty)]
      next := s.next + 1
      distinct := by
        rw [List.map_append, List.nodup_append]
        refine ⟨s.distinct, by simp, fun ref href new hnew heq => ?_⟩
        have hlt := s.fresh ref href
        rw [heq, List.mem_singleton.mp hnew] at hlt
        exact Nat.lt_irrefl _ hlt
      fresh := by
        intro ref href
        rw [List.map_append] at href
        rcases List.mem_append.mp href with hold | hnew
        · exact Nat.lt_succ_of_lt (s.fresh ref hold)
        · rw [List.mem_singleton.mp hnew]
          exact Nat.lt_succ_self _ })

/-- Forgets a table. -/
def destroy (s : Store) (ref : Ref) : Store where
  tables := s.tables.filter fun t => t.1 ≠ ref
  next := s.next
  distinct := s.distinct.sublist (List.filter_sublist.map _)
  fresh _ hother := s.fresh _ ((List.filter_sublist.map _).subset hother)

def find? (s : Store) (ref : Ref) : Option Table := s.tables.lookup ref

/-- Changes one table. -/
def update (s : Store) (ref : Ref) (change : Table → Table) : Store :=
  let tables := s.tables.map fun t => if t.1 = ref then (t.1, change t.2) else t
  have names : tables.map Prod.fst = s.tables.map Prod.fst := by
    rw [List.map_map]
    refine List.map_congr_left fun t _ => ?_
    by_cases href : t.1 = ref <;> simp [href]
  ⟨tables, s.next, names ▸ s.distinct, names ▸ s.fresh⟩

/-- How many tables are alive. -/
def live (s : Store) : Nat := s.tables.length

end Store

end Metadata

end PluginKit
