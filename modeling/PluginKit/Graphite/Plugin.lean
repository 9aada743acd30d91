import PluginKit.Config.Decode
import PluginKit.Graphite.Line
import PluginKit.Graphite.Link
import PluginKit.Plugin.Basic

/-!
# `PluginKit.Graphite.Plugin`: the plugin that writes to graphite

Each configured node has a plugin of its own, with its own connection. The state of the manager's
plugins is the list of nodes; a plugin knows its place in it.

* `Settings.decode`: the configuration.
* `nodePlugin`: the plugin of a node.
* `manager`: the plugin for the daemon.
-/

set_option autoImplicit false

namespace PluginKit

namespace Graphite

/-- What is configured for a node. -/
structure NodeSettings where
  name : String
  address : String
  path : Option String
  storeRates : Bool
  deriving DecidableEq, Repr

/-- What is configured. -/
structure Settings where
  nodes : List NodeSettings
  deriving DecidableEq, Repr

namespace Settings

def nodeSchema : Config.Schema :=
  .record "NodeConfig" true
    (.required "name" "Name" (.text "a string")
      (.required "address" "Address" (.text "a string")
        (.required "path" "Prefix" (.option (.text "a string"))
          (.defaulted "store_rates" "StoreRates" (.boolean true) .boolean .nil))))

def schema : Config.Schema :=
  .record "GraphiteConfig" true
    (.defaulted "node" "Node" (.list []) (.list nodeSchema) .nil)

def ofNode (d : Config.Datum) : NodeSettings where
  name := (d.field "name").toText
  address := (d.field "address").toText
  path := (d.field "path").toOption.map (·.toText)
  storeRates := (d.field "store_rates").toBool

/-- Reads the lines of the plugin's block. -/
def decode (items : List Config.Item) : Except Config.DecodeError Settings := do
  let d ← schema.decodeItems items
  return ⟨(d.field "node").toList.map ofNode⟩

end Settings

/-- Where the plugin logs. -/
def target : String := "cdshim_write_graphite"

/-- The state of all nodes. -/
abbrev Nodes := List Node

variable {abi : Abi}

/-- Uses the node at a place; without one there is nothing to do. -/
def atNode (index : Nat) (act : Node → (Delivery × Bool) × Node) :
    Code abi Nodes (Delivery × Bool) := do
  let w ← get
  match w.own[index]? with
  | none => return (.done, false)
  | some node =>
    let (result, node) := act node
    set { w with own := w.own.set index node }
    return result

/-- What an end of sending or flushing means; `doing` says what failed. -/
def settle (doing : String) : Delivery → Code abi Nodes Unit
  | .done => pure ()
  | .poisoned => Code.fail (Failure.plain "graphite connection lock poisoned")
  | .notConnected message => Code.fail ((Failure.plain message).context "connecting to graphite")
  | .failed message => Code.fail ((Failure.plain message).context doing)
  | .panicked message => Code.panic ⟨target, message⟩

/-- Sends text to a node. -/
def send (index : Nat) (text : String) : Code abi Nodes Unit := do
  let (delivery, isNew) ← atNode index fun n => n.send (Utf8.encode text)
  if isNew then Code.emit (Log.Event.ofText .debug target "connected to graphite")
  settle "writing to graphite" delivery

/-- Writes out what a node holds back. -/
def flush (index : Nat) : Code abi Nodes Unit := do
  let (delivery, _) ← atNode index fun n =>
    let (delivery, n) := n.flush
    ((delivery, false), n)
  settle "flushing graphite connection" delivery

/-- Sends the lines of a list, with rates in the place of everything but gauges on request. A list
without lines is not sent. -/
def writeList (index : Nat) (root : String) (storeRates : Bool) (l : ValueList) :
    Code abi Nodes Unit := do
  let reports ← if storeRates then Code.rates l else pure l.values
  let lines := formatLines root (Identity.ofList l) reports l.time
  if lines.isEmpty then return ()
  else send index lines

/-- The plugin of the node at a place. -/
def nodePlugin (index : Nat) (root : String) (storeRates : Bool) : Plugin abi Nodes :=
  { Plugin.idle ⟨false, false, true, true⟩ with
    write := writeList index root storeRates
    flush := fun _ _ => flush index }

/-- Why an address cannot be connected to, if it is no host with a number of 16 bits
behind a colon. -/
def addressProblem (address : String) : Option String :=
  let afterHost := (address.toList.reverse.takeWhile (· ≠ ':')).reverse
  if !address.toList.contains ':' then some "invalid socket address"
  else if (Word.readUpTo? 65535 afterHost).isNone then some "invalid port value"
  else none

/-- A configured node as it starts out. -/
def NodeSettings.start (s : NodeSettings) : Node :=
  { Node.idle (Wire.ofReplies [] [] []) with refusal := addressProblem s.address }

/-- Takes a configured node into the state and gives it a plugin. -/
def openNode (s : NodeSettings) : Code abi Nodes (String × Plugin abi Nodes) := do
  Code.emit (Log.Event.ofText .info target ("writing " ++ s.name ++ " to " ++ s.address))
  let w ← get
  set { w with own := w.own ++ [s.start] }
  return (s.name, nodePlugin w.own.length (pathRoot (s.path.getD "")) s.storeRates)

/-- The graphite plugin for the daemon. -/
def manager : Manager abi Nodes :=
  Manager.ofPlugins "write_graphite" fun config => do
    let settings ← match config with
      | none => pure ⟨[]⟩
      | some items => Code.ofDecoded (Settings.decode items)
    if settings.nodes.isEmpty then
      Code.emit (Log.Event.ofText .warn target "no <Node> configured, nothing will be written")
    return .multiple (← settings.nodes.mapM openNode)

end Graphite

end PluginKit
