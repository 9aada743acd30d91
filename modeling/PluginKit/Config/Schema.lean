import PluginKit.Config.Block
import PluginKit.Log.Level
import PluginKit.Number.Layout
import PluginKit.Text.Quoted

/-!
# `PluginKit.Config.Schema`: what a configuration is decoded into

A plugin describes its configuration as a schema: scalars, lists, options, and records of named
fields. Decoding a block with a schema gives a datum or an error that names the keys on the way to
it.

* `Schema`, `Fields`: descriptions.
* `Datum`: decoded configuration.
* `DecodeError`: why a block does not fit, with the keys on the way.
-/

set_option autoImplicit false

namespace PluginKit

namespace Config

/-- An integer type of a number of bits. -/
structure IntegerType where
  signed : Bool
  bits : Nat
  deriving DecidableEq, Repr

namespace IntegerType

def name (t : IntegerType) : String := (if t.signed then "i" else "u") ++ toString t.bits

def smallest (t : IntegerType) : Int := if t.signed then -(1 <<< (t.bits - 1) : Nat) else 0

def largest (t : IntegerType) : Int :=
  if t.signed then (1 <<< (t.bits - 1) : Nat) - 1 else (1 <<< t.bits : Nat) - 1

/-- The largest value as a double. A double holds 53 bits, so that of a wider type is rounded up to
the next power of two. `IntegerType.exists_double_ceiling` and `IntegerType.ceiling_nearest` justify
the definition: this is a double, and no double is nearer to the largest value. The smallest value
needs no rounding (`IntegerType.exists_double_smallest`). -/
def ceiling (t : IntegerType) : Int := if t.bits ≤ 53 then t.largest else t.largest + 1

end IntegerType

/-- Whatever is listed somewhere, without a description of it. -/
inductive Tree where
  | number (x : Double)
  | boolean (b : Bool)
  | text (s : String)
  | list (items : List Tree)
  | block (keys : List (String × Tree))
  deriving Repr

/-- What a variant of a choice carries. Configuration can name a variant and nothing more. -/
inductive Payload where
  | nothing
  | one
  | several
  | named
  deriving DecidableEq, Repr

/-- A variant: the text that selects it, and its name. -/
structure Variant where
  text : String
  name : String
  payload : Payload
  deriving DecidableEq, Repr

/-- Decoded configuration. -/
inductive Datum where
  | boolean (b : Bool)
  | integer (n : Int)
  /-- The bits of a binary32 number. -/
  | single (bits : UInt32)
  | double (x : Double)
  | text (s : String)
  | level (l : Log.Severity)
  /-- Something was there and nobody looked at it. -/
  | ignored
  | absent
  | present (d : Datum)
  | list (items : List Datum)
  | map (keys : List (String × Datum))
  | choice (name : String)
  | record (fields : List (String × Datum))
  | tree (t : Tree)
  deriving Repr

namespace Datum

/-- A field of a record; what has no such field counts as absent. -/
def field (d : Datum) (name : String) : Datum :=
  match d with
  | .record fields => (fields.lookup name).getD .absent
  | _ => .absent

def toBool : Datum → Bool
  | .boolean b => b
  | _ => false

def toText : Datum → String
  | .text s => s
  | _ => ""

def toDouble : Datum → Double
  | .double x => x
  | _ => .zero

def toList : Datum → List Datum
  | .list items => items
  | _ => []

/-- What an option holds. -/
def toOption : Datum → Option Datum
  | .present d => some d
  | _ => none

end Datum

mutual

/-- A description of what is decoded. -/
inductive Schema where
  | boolean
  | integer (type : IntegerType)
  | single
  | double
  | character
  /-- A text; `expecting` says what for, in errors. -/
  | text (expecting : String)
  /-- A text that is taken as raw bytes. -/
  | bytes (expecting : String)
  | level
  /-- Something that no configuration can stand for. -/
  | never (expecting : String)
  | ignored
  | any
  | option (inner : Schema)
  | list (inner : Schema)
  | map (inner : Schema)
  /-- The same as what it wraps. -/
  | wrapped (inner : Schema)
  /-- As many values as there are members. -/
  | tuple (members : Fields)
  /-- The same under a name of its own. -/
  | namedTuple (name : String) (members : Fields)
  | choice (name : String) (variants : List Variant)
  /-- Named fields. A strict record refuses keys that it does not know. -/
  | record (name : String) (strict : Bool) (fields : Fields)

/-- The fields of a record or the members of a tuple: a name, the keys that stand for it, what it is
when no key does, and its schema. The first key is the one that errors name. -/
inductive Fields where
  | nil
  | cons (name : String) (key : String) (aliases : List String) (default : Option Datum)
      (schema : Schema) (rest : Fields)

end

instance : Inhabited Schema := ⟨.ignored⟩

namespace Fields

/-- A field that one key stands for and that has to be given. -/
def required (name key : String) (schema : Schema) (rest : Fields) : Fields :=
  .cons name key [] none schema rest

/-- A field that one key stands for, with what it is when the key is missing. -/
def defaulted (name key : String) (default : Datum) (schema : Schema) (rest : Fields) : Fields :=
  .cons name key [] (some default) schema rest

/-- The number of fields. -/
def count : Fields → Nat
  | .nil => 0
  | .cons _ _ _ _ _ rest => rest.count + 1

/-- All keys that are understood, in the order of the fields. -/
def keys : Fields → List String
  | .nil => []
  | .cons _ key aliases _ _ rest => key :: aliases ++ rest.keys

/-- The name and first key of the field that a key stands for. -/
def find? (key : String) : Fields → Option (String × String)
  | .nil => none
  | .cons name first aliases _ _ rest =>
    if key = first ∨ key ∈ aliases then some (name, first) else rest.find? key

end Fields

/-- What was found where something else was expected. -/
inductive Found where
  | boolean (b : Bool)
  | number (x : Double)
  | text (s : String)
  | map
  | sequence
  | bareVariant
  deriving DecidableEq, Repr

/-- A number is shown with a point, so that it is not taken for an integer. -/
def Found.describe : Found → String
  | .boolean b => "boolean `" ++ toString b ++ "`"
  | .number x => "floating point `" ++ Style.pointed.render x ++ "`"
  | .text s => "string " ++ Quoted.render s
  | .map => "map"
  | .sequence => "sequence"
  | .bareVariant => "unit variant"

/-- Why something listed does not fit its schema. -/
inductive Misfit where
  | mismatch (found : Found) (expecting : String)
  | missingField (key : String)
  | duplicateField (key : String)
  | unknownField (key : String) (known : List String)
  | unknownVariant (text : String) (known : List String)
  | tooShort (length : Nat) (expecting : String)
  | unknownLevel (text : String)
  | notSingle
  | notText
  | notCharacter (text : String)
  | notBoolean
  | notNumber
  | notInteger (x : Double)
  | notBlock
  | unsupported
  deriving DecidableEq, Repr

/-- A misfit below a row of keys, the outermost first. -/
structure DecodeError where
  path : List String
  root : Misfit
  deriving DecidableEq, Repr

/-- The names that could have been given. -/
def oneOf (kind : String) : List String → String
  | [] => "there are no " ++ kind
  | [a] => "expected `" ++ a ++ "`"
  | [a, b] => "expected `" ++ a ++ "` or `" ++ b ++ "`"
  | names => "expected one of " ++ ", ".intercalate (names.map fun a => "`" ++ a ++ "`")

/-- What the schema of a target reports, as opposed to what the values themselves show. -/
def Misfit.schemaMessage? : Misfit → Option String
  | .mismatch found expecting =>
    some ("invalid type: " ++ found.describe ++ ", expected " ++ expecting)
  | .missingField key => some ("missing field `" ++ key ++ "`")
  | .duplicateField key => some ("duplicate field `" ++ key ++ "`")
  | .unknownField key known => some ("unknown field `" ++ key ++ "`, " ++ oneOf "fields" known)
  | .unknownVariant text known =>
    some ("unknown variant `" ++ text ++ "`, " ++ oneOf "variants" known)
  | .tooShort length expecting =>
    some ("invalid length " ++ toString length ++ ", expected " ++ expecting)
  | .unknownLevel text => some ("did not expect log level of: " ++ text)
  | _ => none

def Misfit.message (e : Misfit) : String :=
  match e with
  | .notSingle => "expecting values to contain a single entry"
  | .notText => "expecting string"
  | .notCharacter text => "expecting string of length one, received `" ++ text ++ "`"
  | .notBoolean => "expecting boolean"
  | .notNumber => "expecting number"
  | .notInteger x => "expecting an integer in range, received " ++ x.text
  | .notBlock => "needs an object to deserialize a struct"
  | .unsupported => "could not deserialize as datatype not supported"
  | e => "error from deserialization: " ++ e.schemaMessage?.getD ""

/-- The misfit after the keys that lead to it. -/
def DecodeError.message (e : DecodeError) : String :=
  String.join (e.path.map (· ++ ": ")) ++ e.root.message

/-- An error without keys. -/
def Misfit.here (e : Misfit) : DecodeError := ⟨[], e⟩

/-- The same error seen from above a key. -/
def DecodeError.under (key : String) (e : DecodeError) : DecodeError := ⟨key :: e.path, e.root⟩

end Config

end PluginKit
