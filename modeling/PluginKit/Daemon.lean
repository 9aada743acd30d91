import PluginKit.Abi
import PluginKit.Log.Logger
import PluginKit.Metadata
import PluginKit.Time

/-!
# `PluginKit.Daemon`: the daemon as a plugin sees it

A plugin dispatches value lists to the daemon, logs through it, asks its cache for rates and keeps
annotations in its store. `Daemon` records what was dispatched and logged and holds what the daemon
will answer.

* `RawList`, `DataSet`: a value list and the description of its values, as the daemon holds them.
* `Daemon.dispatch`, `Daemon.log`, `Daemon.cachedRates`: what a plugin can ask for.
* `Dispatched.ofRaw`: a dispatched list as text.
-/

set_option autoImplicit false

namespace PluginKit

/-- What the daemon knows about one value of a list. -/
structure DataSource (abi : Abi) where
  name : TextField abi.nameLength
  type : Int
  min : Double
  max : Double
  deriving DecidableEq

/-- What the daemon knows about the values of a list. -/
structure DataSet (abi : Abi) where
  sources : Option (List (DataSource abi))
  count : Int
  deriving DecidableEq

/-- A value list as the daemon holds it. -/
structure RawList (abi : Abi) where
  values : Option (List UInt64)
  count : Int
  time : Ticks
  interval : Ticks
  host : TextField abi.nameLength
  plugin : TextField abi.nameLength
  pluginInstance : TextField abi.nameLength
  type : TextField abi.nameLength
  typeInstance : TextField abi.nameLength
  metadata : Option Metadata.Table
  deriving DecidableEq

/-- As many elements as are declared, none when there is no list. -/
def declaredElements {α : Type} (count : Int) (list : Option (List α)) : List α :=
  (list.getD []).take count.toNat

/-- The daemon, as far as plugins can tell. -/
structure Daemon (abi : Abi) where
  /-- The lists that were dispatched, the latest last. -/
  dispatched : List (RawList abi)
  /-- The lines of the log, the latest last. -/
  log : List Log.Record
  /-- What the daemon answers to a dispatch. -/
  dispatchStatus : Int
  /-- The rates in the cache; none makes a look-up fail. -/
  rates : Option (List Double)
  metadata : Metadata.Store

namespace Daemon

variable {abi : Abi}

/-- Nothing has happened yet. -/
def initial : Daemon abi := ⟨[], [], 0, none, .empty⟩

/-- Takes a list. -/
def dispatch (d : Daemon abi) (list : RawList abi) : Int × Daemon abi :=
  (d.dispatchStatus, { d with dispatched := d.dispatched ++ [list] })

/-- Takes a line for the log. -/
def record (d : Daemon abi) (line : Log.Record) : Daemon abi := { d with log := d.log ++ [line] }

/-- The rates of a list that declares a number of values. The cache gives out at least as many
numbers as are declared, zeros where it has none; a negative number of them cannot be given out. -/
def cachedRates (d : Daemon abi) (count : Int) : Option (List Double) :=
  match d.rates with
  | none => none
  | some rates =>
    if count < 0 then none
    else some (rates ++ List.replicate (max count.toNat 1 - rates.length) Double.zero)

end Daemon

/-- A dispatched list with its texts read, whatever their bytes. -/
structure Dispatched where
  plugin : String
  pluginInstance : String
  type : String
  typeInstance : String
  host : String
  time : Ticks
  interval : Ticks
  values : List UInt64
  metadata : List (String × MetaValue)
  deriving DecidableEq

/-- What the daemon makes of a list that it is given. -/
def Dispatched.ofRaw {abi : Abi} (l : RawList abi) : Dispatched where
  plugin := l.plugin.decodeLossy
  pluginInstance := l.pluginInstance.decodeLossy
  type := l.type.decodeLossy
  typeInstance := l.typeInstance.decodeLossy
  host := l.host.decodeLossy
  time := l.time
  interval := l.interval
  values := declaredElements l.count l.values
  metadata :=
    match l.metadata with
    | none => []
    | some table => table.entries.map fun e => (Utf8.decodeLossy e.1, e.2)

end PluginKit
