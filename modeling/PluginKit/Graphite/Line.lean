import PluginKit.Text.CharClass
import PluginKit.ValueList.Received

/-!
# `PluginKit.Graphite.Line`: measurements as lines of text

Graphite takes one line for each measurement: a path of components between dots, the value, and the
time in whole seconds. Text from elsewhere must not add components or fields, so dots, blank
characters and controls in it become dashes.

* `Graphite.sanitize`, `Graphite.sanitizePath`: text that is safe in a path.
* `Graphite.valueText`: a value on a line; graphite stores finite numbers only.
* `Graphite.formatLines`: the lines of a list.
-/

set_option autoImplicit false

namespace PluginKit

namespace Graphite

/-- A dash in the place of a character that would end a component or a field. -/
def sanitizeChar (c : Char) : Char :=
  if c = '.' ∨ Text.isBlank c ∨ Text.isControl c then '-' else c

/-- A text as one component of a path. -/
def sanitize (s : String) : String := String.ofList (s.toList.map sanitizeChar)

/-- A text as components of a path, without the empty ones. -/
def sanitizePath (s : String) : String :=
  ".".intercalate
    (((s.toList.splitOnP (· = '.')).filter (· ≠ [])).map fun part =>
      sanitize (String.ofList part))

/-- What the paths of a node start with. -/
def pathRoot (configured : String) : String :=
  let path := sanitizePath configured
  if path.isEmpty then "" else path ++ "."

/-- What identifies a list. -/
structure Identity where
  host : String
  plugin : String
  pluginInstance : Option String
  type : String
  typeInstance : Option String
  deriving DecidableEq, Repr

def Identity.ofList (l : ValueList) : Identity :=
  ⟨l.host, l.plugin, l.pluginInstance, l.type, l.typeInstance⟩

/-- A name with its instance, if it has one, as one component. -/
def component (name : String) (inst : Option String) : String :=
  match inst with
  | none => sanitize name
  | some i => sanitize name ++ "-" ++ sanitize i

/-- The path of a list. -/
def Identity.path (id : Identity) : String :=
  sanitize id.host ++ "." ++ component id.plugin id.pluginInstance ++ "." ++
    component id.type id.typeInstance

/-- The text of a value, none when it is not finite. -/
def valueText (v : Value) : Option String :=
  match v with
  | .gauge x => if x.isFinite then some v.text else none
  | v => some v.text

/-- The whole seconds since the epoch, zero before it. -/
def seconds (t : Instant) : Nat := t.nanos.toNat / 1000000000

/-- The path of a report. Its name is a component of its own when the list has several. -/
def reportPath (root : String) (id : Identity) (several : Bool) (r : Report) : String :=
  root ++ id.path ++ (if several then "." ++ sanitize r.name else "")

/-- The line of a report, none when its value has no text. -/
def line (root : String) (id : Identity) (several : Bool) (time : Instant) (r : Report) :
    Option String :=
  (valueText r.value).map fun v =>
    reportPath root id several r ++ " " ++ v ++ " " ++ toString (seconds time) ++ "\n"

/-- The lines of reports. -/
def formatLines (root : String) (id : Identity) (reports : List Report) (time : Instant) :
    String :=
  String.join (reports.filterMap (line root id (1 < reports.length) time))

end Graphite

end PluginKit
