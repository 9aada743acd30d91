import PluginKit.Config.Decode
import PluginKit.Plugin.Basic

/-!
# `PluginKit.Load`: the plugin that reports load averages

The plugin reports the load of the last one, five and fifteen minutes, on request divided by the
number of processors that are online.

* `Load.perProcessor`: the division.
* `Load.Settings.decode`: the plugin's configuration.
* `Load.manager`: the plugin for the daemon.
-/

set_option autoImplicit false

namespace PluginKit

namespace Load

/-- What the operating system answers. -/
structure Machine where
  /-- The averages that are known, at most three; when there are none the question fails. -/
  averages : List Double
  processors : Int
  deriving DecidableEq, Repr

/-- Load averages for each of a number of processors. -/
def perProcessor (averages : List Double) (processors : UInt64) : List Double :=
  averages.map fun x => x.divWord processors

/-- The plugin's configuration. -/
structure Settings where
  reportRelative : Bool
  deriving DecidableEq, Repr

namespace Settings

def default : Settings := ⟨false⟩

def schema : Config.Schema :=
  .record "LoadConfig" true
    (.defaulted "report_relative" "ReportRelative" (.boolean false) .boolean .nil)

/-- Reads the lines of the plugin's block. -/
def decode (items : List Config.Item) : Except Config.DecodeError Settings := do
  let d ← schema.decodeItems items
  return ⟨(d.field "report_relative").toBool⟩

/-- The settings in the plugin's log. -/
def describe (s : Settings) : String :=
  "LoadConfig \x7b report_relative: " ++ toString s.reportRelative ++ " \x7d"

end Settings

/-- The name of the plugin, and of the type of its values. -/
def name : String := "load"

/-- Where the plugin logs. -/
def target : String := "cdshim_load"

variable {abi : Abi}

/-- Asks for the averages; all three have to be known. -/
def averages : Code abi Machine (List Double) := do
  let known := (← get).own.averages
  if known.length = 3 then return known
  else
    let count : Int := if known.isEmpty then -1 else known.length
    Code.fail (Failure.plain ("getloadavg returned " ++ toString count ++ " of 3 samples"))

/-- Asks for the number of processors. -/
def processors : Code abi Machine UInt64 := do
  let n := (← get).own.processors
  if 0 < n then return UInt64.ofNat n.toNat
  else Code.fail (Failure.plain "unable to determine the number of online cpus")

/-- Submits the averages, with the instance `relative` when they are for each processor. -/
def report (s : Settings) : Code abi Machine Unit := do
  let known ← averages
  let values ← if s.reportRelative then perProcessor known <$> processors else pure known
  Code.submit
    { Submission.named name "load" with
      values := values.map Value.gauge
      pluginInstance := if s.reportRelative then some "relative" else none }

/-- The plugin with its settings. -/
def plugin (s : Settings) : Plugin abi Machine :=
  { Plugin.idle ⟨true, false, false, false⟩ with read := report s }

/-- The logger that the plugin installs. -/
def logger : Log.Logger := Log.LoggerSettings.build ⟨some .info, [], some name⟩

/-- Installs the logger for the whole process, which can have only one. -/
def installLogger : Code abi Machine Unit := do
  let w ← get
  match w.diagnostics.process with
  | some _ =>
    Code.fail ((Failure.plain "a global default trace dispatcher has already been set").context
      "logger already installed")
  | none => set { w with diagnostics := { w.diagnostics with process := some logger } }

/-- The load plugin for the daemon. -/
def manager : Manager abi Machine where
  name := name
  wantsStart := pure true
  plugins config := do
    let settings ← match config with
      | none => pure Settings.default
      | some items => Code.ofDecoded (Settings.decode items)
    Code.emit (Log.Event.ofText .debug target ("load config: " ++ settings.describe))
    return .single (plugin settings)
  start := installLogger
  shutdown := pure ()

end Load

end PluginKit
