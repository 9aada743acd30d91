import PluginKit.Number.Double
import PluginKit.Text.Bytes

/-!
# `PluginKit.Config.Item`: the daemon's configuration tree

A line of the daemon's configuration has a key and values, a block has further lines inside. The
daemon hands the tree over as records with counts beside the lists (`RawItem`); `Item` is the same
tree with texts read.

* `Item.ofRaw`: reads a tree, or names the first line that cannot be read.
-/

set_option autoImplicit false

namespace PluginKit

namespace Config

/-- The types of values that the daemon documents. -/
inductive ValueType where
  | text
  | number
  | boolean
  deriving DecidableEq, Repr

namespace ValueType

/-- The daemon's number for a type. -/
def code : ValueType → Int
  | .text => 0
  | .number => 1
  | .boolean => 2

/-- The type of a number. -/
def ofCode? (code : Int) : Option ValueType :=
  match code with
  | 0 => some .text
  | 1 => some .number
  | 2 => some .boolean
  | _ => none

end ValueType

/-- A value as the daemon holds it: the number of its type, and one place whose content can be taken
in three ways. Only the type says which of them is meant. -/
structure RawValue where
  type : Int
  /-- A text; none when the daemon has no text there. -/
  text : Option (List UInt8)
  number : Double
  /-- Zero is false, everything else true. -/
  boolean : Int
  deriving DecidableEq, Repr

namespace RawValue

/-- A value of some type, with nothing in its place. -/
def blank (type : Int) : RawValue := ⟨type, none, .zero, 0⟩

def ofText (text : Option (List UInt8)) : RawValue :=
  { blank ValueType.text.code with text := text }

def ofNumber (number : Double) : RawValue :=
  { blank ValueType.number.code with number := number }

def ofBoolean (boolean : Int) : RawValue :=
  { blank ValueType.boolean.code with boolean := boolean }

end RawValue

/-- A line or block as the daemon holds it. A missing list counts as empty, whatever the count. -/
structure RawItem where
  key : Option (List UInt8)
  values : Option (List RawValue)
  valueCount : Int
  children : Option (List RawItem)
  childCount : Int

instance : Inhabited RawItem := ⟨⟨none, none, 0, none, 0⟩⟩

/-- A value of a configuration line. -/
inductive Value where
  | number (x : Double)
  | boolean (b : Bool)
  | text (s : String)
  deriving DecidableEq, Repr

/-- A configuration line or block. -/
structure Item where
  key : String
  values : List Value
  children : List Item
  deriving Repr

/-- Why a tree cannot be read. -/
inductive Error where
  | key (fault : Utf8.Fault)
  | text (fault : Utf8.Fault)
  | unknownType (type : Int)
  deriving DecidableEq, Repr

namespace Error

def message : Error → String
  | .key fault => "config item did not have valid utf8: " ++ fault.message
  | .text _ => "config value did not have valid utf8"
  | .unknownType type => "unknown config value type: " ++ toString type

/-- What lies behind an error, nearest first. -/
def causes : Error → List String
  | .key fault => [fault.message]
  | .text fault => [fault.message]
  | .unknownType _ => []

end Error

/-- The text the daemon points to; a missing one is empty. -/
def readText : Option (List UInt8) → Except Utf8.Fault String
  | none => .ok ""
  | some bytes => Utf8.decode (Terminated.bytes bytes)

/-- As many elements as are declared. -/
def declared {α : Type} (count : Int) (list : Option (List α)) : List α :=
  (list.getD []).take count.toNat

/-- Reads a value as its type says. -/
def Value.ofRaw (v : RawValue) : Except Error Value :=
  match ValueType.ofCode? v.type with
  | some .text =>
    match readText v.text with
    | .ok s => .ok (.text s)
    | .error fault => .error (.text fault)
  | some .number => .ok (.number v.number)
  | some .boolean => .ok (.boolean (v.boolean != 0))
  | none => .error (.unknownType v.type)

mutual

/-- Reads a tree: the key first, then the values, then what is inside. -/
def Item.ofRaw : RawItem → Except Error Item
  | ⟨key, values, valueCount, children, childCount⟩ =>
    match readText key with
    | .error fault => .error (.key fault)
    | .ok key => do
      let values ← (declared valueCount values).mapM Value.ofRaw
      let children ← Item.ofRawOption childCount.toNat children
      return ⟨key, values, children⟩

/-- Reads the blocks inside, none when there is no list. -/
def Item.ofRawOption (count : Nat) : Option (List RawItem) → Except Error (List Item)
  | none => .ok []
  | some items => Item.ofRawList count items

/-- Reads as many trees of a list as are declared. -/
def Item.ofRawList : Nat → List RawItem → Except Error (List Item)
  | 0, _ => .ok []
  | _ + 1, [] => .ok []
  | count + 1, item :: rest => do
    let item ← Item.ofRaw item
    let rest ← Item.ofRawList count rest
    return item :: rest

end

end Config

end PluginKit
