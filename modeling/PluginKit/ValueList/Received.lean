import PluginKit.Daemon
import PluginKit.Value

/-!
# `PluginKit.ValueList.Received`: measurements from the daemon

A plugin that writes measurements is given the daemon's lists. Decoding reads every text, matches
the values with their data sources and names the first text, type or annotation that cannot be
read.

* `ValueList.ofRaw`: decodes a list.
* `ValueList.rates`: the list's reports with rates in the place of everything but gauges.
-/

set_option autoImplicit false

namespace PluginKit

/-- A value with the name and bounds of its data source. -/
structure Report where
  name : String
  value : Value
  min : Double
  max : Double
  deriving DecidableEq, Repr

/-- Why a list cannot be decoded. The plugin's name says whose list it is. -/
inductive ReceiveError where
  | text (plugin : String) (field : String) (fault : Utf8.Fault)
  | dataSourceType (plugin : String) (type : Int)
  | metadata (plugin : String) (key : String) (reason : String)
  deriving DecidableEq, Repr

namespace ReceiveError

def message : ReceiveError → String
  | .text plugin field _ => "plugin: " ++ plugin ++ " did not have a valid utf8 " ++ field
  | .dataSourceType plugin type =>
    "plugin: " ++ plugin ++ " submitted unknown data source type " ++ toString type
  | .metadata plugin key reason =>
    "plugin: " ++ plugin ++ " submitted unreadable metadata key " ++ key ++ ": " ++ reason

/-- What lies behind an error, nearest first. -/
def causes : ReceiveError → List String
  | .text _ _ fault => [fault.message]
  | _ => []

end ReceiveError

/-- A decoded list. -/
structure ValueList where
  values : List Report
  plugin : String
  pluginInstance : Option String
  type : String
  typeInstance : Option String
  host : String
  time : Instant
  interval : Duration
  metadata : List (String × MetaValue)
  /-- The number of values that the daemon's list declares, by which its cache answers. -/
  declared : Int
  deriving DecidableEq, Repr

namespace ValueList

variable {abi : Abi}

/-- Reads a text of a plugin's list. -/
def readField (plugin field : String) (f : TextField abi.nameLength) :
    Except ReceiveError String :=
  f.decode.mapError (.text plugin field)

/-- Matches a value with its source. -/
def readReport (plugin : String) (bits : UInt64) (source : DataSource abi) :
    Except ReceiveError Report :=
  match Kind.ofCode? source.type with
  | none => .error (.dataSourceType plugin source.type)
  | some kind => do
    let name ← readField plugin "data source name" source.name
    return ⟨name, kind.read bits, source.min, source.max⟩

/-- Reads one annotation from a table. -/
def readMetaEntry (plugin : String) (table : Metadata.Table) (key : Metadata.Bytes) :
    Except ReceiveError (String × MetaValue) := do
  let name ← (Utf8.decode key).mapError (.text plugin "metadata key")
  let unreadable := ReceiveError.metadata plugin name "unable to read value"
  let value : MetaValue ← match table.find? key with
    | some (.boolean _) => (table.getBoolean key).mapError (fun _ => unreadable) |>.map .boolean
    | some (.double _) => (table.getDouble key).mapError (fun _ => unreadable) |>.map .double
    | some (.signed _) => (table.getSigned key).mapError (fun _ => unreadable) |>.map .signed
    | some (.unsigned _) => (table.getUnsigned key).mapError (fun _ => unreadable) |>.map .unsigned
    | some (.string _) => (table.getString key).mapError (fun _ => unreadable) |>.map .string
    | none => .error (.metadata plugin name "unknown metadata type")
  return (name, value)

/-- Reads all annotations in the order of their keys. -/
def readMetadata (plugin : String) : Option Metadata.Table →
    Except ReceiveError (List (String × MetaValue))
  | none => .ok []
  | some table => table.keys.mapM (readMetaEntry plugin table)

/-- Decodes a list. -/
def ofRaw (set : DataSet abi) (list : RawList abi) : Except ReceiveError ValueList := do
  let plugin ← readField "" "plugin name" list.plugin
  let pairs := (declaredElements list.count list.values).zip
    (declaredElements set.count set.sources)
  let values ← pairs.mapM fun p => readReport plugin p.1 p.2
  let pluginInstance ← readField plugin "plugin_instance" list.pluginInstance
  let type ← readField plugin "type" list.type
  let typeInstance ← readField plugin "type_instance" list.typeInstance
  let host ← readField plugin "host" list.host
  let metadata ← readMetadata plugin list.metadata
  return {
    values, plugin, type, host, metadata
    pluginInstance := nonEmptyText pluginInstance
    typeInstance := nonEmptyText typeInstance
    time := Ticks.toInstant list.time
    interval := Ticks.toDuration list.interval
    declared := list.count }

/-- Whether there is nothing to look up. -/
def allGauges (l : ValueList) : Bool := l.values.all fun r => r.value.isGauge

/-- A rate in the place of a value that is no gauge. -/
def Report.withRate (r : Report) (rate : Double) : Report :=
  if r.value.isGauge then r else { r with value := .gauge rate }

/-- The reports with rates from the daemon's cache; none when the cache has no rates. -/
def rates (l : ValueList) (d : Daemon abi) : Option (List Report) :=
  if l.allGauges then some l.values
  else (d.cachedRates l.declared).map fun rates =>
    (rates.zip l.values).map fun p => Report.withRate p.2 p.1

/-- What is reported when the cache has no rates. -/
def noRates : String := "unable to retrieve rate (see collectd logs for additional details)"

end ValueList

end PluginKit
