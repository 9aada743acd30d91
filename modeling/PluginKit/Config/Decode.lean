import PluginKit.Config.Schema

/-!
# `PluginKit.Config.Decode`: from a block to a datum

A key with one value fits a scalar field, a key with any number of values a list. A schema can be
given the whole block, everything under one key, or one entry (`Source`); what a source offers
depends on what the schema asks for (`Source.offer`), and the schema takes the offer or refuses it.

* `Schema.decode`: decodes a source.
* `Schema.decodeItems`: decodes the lines of a plugin's block.
-/

set_option autoImplicit false

namespace PluginKit

namespace Config

mutual

/-- An entry without a description. -/
def Tree.ofEntry : Entry → Tree
  | .number x => .number x
  | .boolean b => .boolean b
  | .text s => .text s
  | .block keys => .block (Tree.ofBlock keys)

/-- Everything under each key. -/
def Tree.ofBlock : List (String × List Entry) → List (String × Tree)
  | [] => []
  | (key, [entry]) :: rest => (key, Tree.ofEntry entry) :: Tree.ofBlock rest
  | (key, entries) :: rest => (key, .list (Tree.ofEntries entries)) :: Tree.ofBlock rest

/-- Every entry. -/
def Tree.ofEntries : List Entry → List Tree
  | [] => []
  | entry :: rest => Tree.ofEntry entry :: Tree.ofEntries rest

end

/-- What a schema can be given. -/
inductive Source where
  /-- A block itself. -/
  | block (b : Block)
  /-- All that is listed under a key. -/
  | listed (entries : List Entry)
  /-- One of several entries. -/
  | entry (e : Entry)
  deriving Repr

/-- Reads one entry as a number. -/
def Entry.number? : Entry → Except DecodeError Double
  | .number x => .ok x
  | _ => .error (Misfit.notNumber).here

/-- Reads one entry as a text. -/
def Entry.text? : Entry → Except DecodeError String
  | .text s => .ok s
  | _ => .error (Misfit.notText).here

/-- What an entry is, in errors. -/
def Entry.found : Entry → Found
  | .number x => .number x
  | .boolean b => .boolean b
  | .text s => .text s
  | .block _ => .map

namespace Source

/-- The only entry under a key. -/
def single : Source → Except DecodeError Source
  | .listed [e] => .ok (.entry e)
  | .listed _ => .error (Misfit.notSingle).here
  | source => .ok source

/-- What is there, for a schema that cannot say what it wants. -/
def found : Source → Found
  | .block _ => .map
  | .listed [e] => e.found
  | .listed _ => .sequence
  | .entry e => e.found

/-- Refuses what is there. -/
def mismatch {α : Type} (expecting : String) (source : Source) : Except DecodeError α :=
  .error (Misfit.mismatch source.found expecting).here

/-- The one entry that a scalar asks for. A block itself is no entry. -/
def scalar (expecting : String) (source : Source) : Except DecodeError Entry := do
  match ← source.single with
  | .entry e => .ok e
  | source => source.mismatch expecting

/-- The block that a record or a map asks for. -/
def keys (source : Source) : Except DecodeError Block := do
  match ← source.single with
  | .block b => .ok b
  | .entry (.block b) => .ok b
  | _ => .error (Misfit.notBlock).here

/-- The entries that a list asks for. One entry is never a list of its own. -/
def entries (expecting : String) : Source → Except DecodeError (List Entry)
  | .listed es => .ok es
  | .entry _ => .error (Misfit.unsupported).here
  | source => source.mismatch expecting

/-- Whatever is there, as a tree. -/
def tree : Source → Tree
  | .block b => .block (Tree.ofBlock b)
  | .listed [e] => Tree.ofEntry e
  | .listed es => .list (Tree.ofEntries es)
  | .entry e => Tree.ofEntry e

end Source

/-- The integer that a number is. The bounds are compared as doubles, and what lies past the largest
value by rounding alone becomes the largest value. -/
def IntegerType.ofDouble (t : IntegerType) (x : Double) : Except DecodeError Int :=
  match x.toInt? with
  | some n =>
    if t.smallest ≤ n ∧ n ≤ t.ceiling then .ok (min n t.largest)
    else .error (Misfit.notInteger x).here
  | none => .error (Misfit.notInteger x).here

/-- The level that a text names, in any case. -/
def severityOfText (s : String) : Except DecodeError Log.Severity :=
  let name := Text.upperAscii s
  if name = "INFO" then .ok .info
  else if name = "DEBUG" then .ok .debug
  else if name = "ERR" ∨ name = "ERROR" then .ok .error
  else if name = "WARN" ∨ name = "WARNING" then .ok .warning
  else if name = "NOTICE" then .ok .notice
  else .error (Misfit.unknownLevel name).here

/-- The variant that a text selects. Nothing but its name can be given. -/
def chooseVariant (variants : List Variant) (s : String) : Except DecodeError Datum :=
  match variants.find? fun v => v.text == s with
  | none => .error (Misfit.unknownVariant s (variants.map Variant.text)).here
  | some v =>
    match v.payload with
    | .nothing => .ok (.choice v.name)
    | .one => .error (Misfit.mismatch .bareVariant "newtype variant").here
    | .several => .error (Misfit.mismatch .bareVariant "tuple variant").here
    | .named => .error (Misfit.mismatch .bareVariant "struct variant").here

/-- What a field without a key becomes: its default, or nothing at all if that is a possible
value. -/
def missingField (key : String) (default : Option Datum) (schema : Schema) :
    Except DecodeError Datum :=
  match default, schema with
  | some d, _ => .ok d
  | none, .option _ => .ok .absent
  | none, _ => .error (Misfit.missingField key).here

/-- The fields in their order, from those that were read. -/
def Fields.complete (read : List (String × Datum)) :
    Fields → Except DecodeError (List (String × Datum))
  | .nil => .ok []
  | .cons name key _ default schema rest => do
    let value ← match read.lookup name with
      | some d => pure d
      | none => missingField key default schema
    let others ← rest.complete read
    return (name, value) :: others

mutual

/-- Decodes a source. -/
def Schema.decode : Schema → Source → Except DecodeError Datum
  | .boolean, source => do
    match ← source.scalar "a boolean" with
    | .boolean b => .ok (.boolean b)
    | _ => .error (Misfit.notBoolean).here
  | .integer type, source => do
    return .integer (← type.ofDouble (← (← source.scalar type.name).number?))
  | .single, source => do
    return .single (← (← source.scalar "f32").number?).toSingleBits
  | .double, source => do
    return .double (← (← source.scalar "f64").number?)
  | .character, source => do
    let s ← (← source.scalar "a character").text?
    if s.length = 1 then .ok (.text s) else .error (Misfit.notCharacter s).here
  | .text expecting, source => do
    return .text (← (← source.scalar expecting).text?)
  | .bytes expecting, source =>
    match source with
    | .listed [.text s] => .ok (.text s)
    | .entry (.text s) => .ok (.text s)
    | source => source.mismatch expecting
  | .level, source => do
    return .level (← severityOfText
      (← (← source.scalar "ERROR | WARN | INFO | DEBUG | NOTICE").text?))
  | .never expecting, source => source.mismatch expecting
  | .ignored, _ => .ok .ignored
  | .any, source => .ok (.tree source.tree)
  | .option inner, source =>
    match source with
    | .listed [] => .ok .absent
    | source => .present <$> inner.decode source
  | .list inner, source => do
    return .list (← (← source.entries "a sequence").mapM fun e => inner.decode (.entry e))
  | .map inner, source => do
    return .map (← (← source.keys).mapM fun line =>
      match inner.decode (.listed line.2) with
      | .ok d => .ok (line.1, d)
      | .error e => .error (e.under line.1))
  | .wrapped inner, source => inner.decode source
  | .tuple members, source =>
    let expecting := "a tuple of size " ++ toString members.count
    match source with
    | .listed es => .list <$> members.decodeMembers expecting 0 es
    | source => source.mismatch expecting
  | .namedTuple name members, source =>
    let expecting := "tuple struct " ++ name
    match source with
    | .listed [e] => (Source.entry e).mismatch expecting
    | .listed es =>
      .list <$> members.decodeMembers
        (expecting ++ " with " ++ toString members.count ++ " elements") 0 es
    | source => source.mismatch expecting
  | .choice name variants, source => do
    chooseVariant variants (← (← source.scalar ("enum " ++ name)).text?)
  | .record _ strict fields, source => do
    let read ← (← source.keys).foldlM (fun read line =>
      match fields.find? line.1 with
      | none =>
        if strict then .error (Misfit.unknownField line.1 fields.keys).here else .ok read
      | some (name, key) =>
        if (read.lookup name).isSome then .error (Misfit.duplicateField key).here
        else
          match fields.decodeKey line.1 (.listed line.2) with
          | .ok d => .ok (read ++ [(name, d)])
          | .error e => .error (e.under line.1)) []
    .record <$> fields.complete read

/-- Decodes what is listed under a key with the schema of the field that the key stands for. -/
def Fields.decodeKey (key : String) (source : Source) : Fields → Except DecodeError Datum
  | .nil => .ok .ignored
  | .cons _ first aliases _ schema rest =>
    if key = first ∨ key ∈ aliases then schema.decode source else rest.decodeKey key source

/-- Decodes one entry for each member. Entries past the last member are left. -/
def Fields.decodeMembers (expecting : String) (index : Nat) :
    Fields → List Entry → Except DecodeError (List Datum)
  | .nil, _ => .ok []
  | .cons .., [] => .error (Misfit.tooShort index expecting).here
  | .cons _ _ _ _ schema rest, e :: es => do
    let d ← schema.decode (.entry e)
    let ds ← rest.decodeMembers expecting (index + 1) es
    return d :: ds

end

/-- Decodes the lines of a plugin's block. -/
def Schema.decodeItems (schema : Schema) (items : List Item) : Except DecodeError Datum :=
  schema.decode (.block (Block.ofItems items))

end Config

end PluginKit
