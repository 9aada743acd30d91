import PluginKit.Daemon
import PluginKit.Value

/-!
# `PluginKit.ValueList.Submission`: reporting measurements

A plugin reports a list of measurements with a plugin and a type name and, where it wants to, an
instance of each, a host, a time, an interval and annotations. Submitting fits the texts into the
daemon's fields and dispatches the list; a list with a text that does not fit is not dispatched.

* `Submission`: what a plugin reports.
* `Submission.build`: how a plugin puts it together.
* `Submission.prepare`: the checks, in their order.
* `Submission.submit`: the checks, the annotations, the dispatch.
-/

set_option autoImplicit false

namespace PluginKit

/-- Why a text does not fit the daemon. -/
inductive TextError where
  /-- A zero character would end the text early. -/
  | zeroAt (position : Nat) (text : String)
  /-- The field has no room for the text and the zero byte after it. -/
  | tooLong (length : Nat)
  deriving DecidableEq, Repr

def TextError.message : TextError → String
  | .zeroAt position text =>
    "null encountered (pos: " ++ toString position ++ ") in string: " ++ text
  | .tooLong length => "length of " ++ toString length ++ " is too long"

/-- Refuses a text with a zero character in it, at the position of its byte. -/
def zeroFree (s : String) : Except TextError (List UInt8) :=
  let bytes := Utf8.encode s
  match bytes.findIdx? (· = 0) with
  | some i => .error (.zeroAt i s)
  | none => .ok bytes

/-- Fits a text into a field. -/
def TextField.ofText (n : Nat) (s : String) : Except TextError (TextField n) :=
  if n ≤ (Utf8.encode s).length then .error (.tooLong (Utf8.encode s).length)
  else TextField.ofBytes n <$> zeroFree s

/-- Why measurements were not taken. -/
inductive SubmitError where
  | field (name : String) (cause : TextError)
  | tooManyValues (count : Nat)
  | dispatch (status : Int)
  deriving DecidableEq, Repr

namespace SubmitError

def message : SubmitError → String
  | .field name _ => "error converting field: " ++ name
  | .tooManyValues count => "too many values to submit: " ++ toString count
  | .dispatch status => "plugin_dispatch_values returned an error: " ++ toString status

/-- What lies behind an error, nearest first. -/
def causes : SubmitError → List String
  | .field _ cause => [cause.message]
  | _ => []

end SubmitError

/-- Measurements to be reported. -/
structure Submission where
  plugin : String
  type : String
  values : List Value
  pluginInstance : Option String
  typeInstance : Option String
  host : Option String
  time : Option Instant
  interval : Option Duration
  /-- Annotations, at most one for a key. -/
  metadata : List (String × MetaValue)
  deriving DecidableEq, Repr

namespace Submission

/-- Names and nothing else. -/
def named (plugin type : String) : Submission :=
  ⟨plugin, type, [], none, none, none, none, none, []⟩

/-- Adds an annotation; the last value for a key stays. -/
def annotate (s : Submission) (key : String) (value : MetaValue) : Submission :=
  { s with metadata := Metadata.put key value s.metadata }

/-- One call that sets a part of the report. -/
inductive Setting where
  | values (values : List Value)
  | pluginInstance (name : String)
  | typeInstance (name : String)
  | host (name : String)
  | time (time : Instant)
  | interval (interval : Duration)
  | metadata (key : String) (value : MetaValue)
  deriving DecidableEq, Repr

/-- Sets a part; what was set before is replaced. -/
def set (s : Submission) : Setting → Submission
  | .values values => { s with values }
  | .pluginInstance name => { s with pluginInstance := some name }
  | .typeInstance name => { s with typeInstance := some name }
  | .host name => { s with host := some name }
  | .time time => { s with time := some time }
  | .interval interval => { s with interval := some interval }
  | .metadata key value => s.annotate key value

/-- The report that a sequence of calls builds. -/
def build (plugin type : String) (settings : List Setting) : Submission :=
  settings.foldl set (named plugin type)

/-- Whether two lists of annotations agree as maps. -/
def equalMeta (a b : List (String × MetaValue)) : Bool :=
  a.length == b.length && a.all fun e =>
    match b.lookup e.1 with
    | some v => e.2.equal v
    | none => false

/-- Equality of submissions. Doubles compare as numbers, annotations as a map. -/
def equal (a b : Submission) : Bool :=
  a.plugin == b.plugin && a.type == b.type &&
    (a.values.length == b.values.length && (a.values.zip b.values).all fun p => p.1.equal p.2) &&
    a.pluginInstance == b.pluginInstance && a.typeInstance == b.typeInstance &&
    a.host == b.host && a.time == b.time && a.interval == b.interval &&
    equalMeta a.metadata b.metadata

/-- Adds annotations to a table, in order, up to the first with a zero character in its key or
text. -/
def fillTable : List (String × MetaValue) → Metadata.Table → Except SubmitError Metadata.Table
  | [], t => .ok t
  | (key, value) :: rest, t => do
    let key ← (zeroFree key).mapError (.field "meta key")
    match value with
    | .string s =>
      let text ← (zeroFree s).mapError (.field "meta value")
      fillTable rest (t.addText key text)
    | v => fillTable rest (t.add key v)

/-- A text field of the list; none leaves it empty. -/
def fieldOf (n : Nat) (name : String) : Option String → Except SubmitError (TextField n)
  | none => .ok (TextField.ofBytes n [])
  | some s => (TextField.ofText n s).mapError (.field name)

variable {abi : Abi}

/-- The list without its annotations, if all texts and the number of values fit. -/
def prepare (abi : Abi) (s : Submission) : Except SubmitError (RawList abi) := do
  let pluginInstance ← fieldOf abi.nameLength "plugin_instance" s.pluginInstance
  let typeInstance ← fieldOf abi.nameLength "type_instance" s.typeInstance
  let plugin ← fieldOf abi.nameLength "plugin" (some s.plugin)
  let type ← fieldOf abi.nameLength "type" (some s.type)
  let host ← match s.host with
    | some h => fieldOf abi.nameLength "host" (some h)
    | none => pure (TextField.ofBytes abi.nameLength (Utf8.encode abi.defaultHost))
  if abi.maxCount < s.values.length then .error (.tooManyValues s.values.length)
  else
    return {
      values := some (s.values.map Value.bits)
      count := s.values.length
      time := (s.time.map Ticks.ofInstant).getD (Ticks.ofNanos 0)
      interval := (s.interval.map Ticks.ofDuration).getD (Ticks.ofNanos 0)
      host, plugin, pluginInstance, type, typeInstance
      metadata := none }

/-- What the daemon's answer to a dispatch means. -/
def outcome (status : Int) : Except SubmitError Unit :=
  if status = 0 then .ok () else .error (.dispatch status)

/-- Submits with the annotations added in the given order. The table that holds them is destroyed
whether or not the list could be dispatched. -/
def submitInOrder (order : List (String × MetaValue)) (s : Submission) (d : Daemon abi) :
    Except SubmitError Unit × Daemon abi :=
  match s.prepare abi with
  | .error e => (.error e, d)
  | .ok list =>
    if order.isEmpty then
      let (status, d) := d.dispatch list
      (outcome status, d)
    else
      let (ref, store) := d.metadata.create
      match fillTable order .empty with
      | .error e => (.error e, { d with metadata := store.destroy ref })
      | .ok table =>
        let store := store.update ref fun _ => table
        let (status, d) :=
          { d with metadata := store }.dispatch { list with metadata := store.find? ref }
        (outcome status, { d with metadata := d.metadata.destroy ref })

/-- Submits the measurements. -/
def submit (s : Submission) (d : Daemon abi) : Except SubmitError Unit × Daemon abi :=
  s.submitInOrder s.metadata d

end Submission

end PluginKit
