import PluginKit.Config.Decode
import PluginKit.Plugin.Session

/-!
# `PluginKit.Plugin.Scripted`: plugins that follow a script

To try out a session, plugins are needed whose calls return, fail, panic or submit on demand and
which remember how they were called.

* `Behaviour`: what a call does.
* `PluginScript`, `ManagerScript`: plugins and managers by their behaviours.
* `Journal`: what the plugins were asked.
-/

set_option autoImplicit false

namespace PluginKit

namespace Scripted

/-- What a call does. -/
inductive Behaviour where
  | succeed
  | fail (f : Failure)
  | panic (p : Panic)
  | submit (s : Submission)
  /-- Asks for the rates of the list that is written. -/
  | askRates
  deriving DecidableEq, Repr

/-- A call that a plugin or manager was given. -/
inductive Call where
  /-- The keys of the configuration, if there is one. -/
  | plugins (keys : Option (List String))
  | start
  | shutdown
  | read
  | write (list : ValueList)
  | rates (reports : List Report)
  | flush (timeout : Option Duration) (identifier : Option String)
  | log (severity : Log.Severity) (message : String)
  deriving DecidableEq, Repr

/-- What plugins remember. -/
structure Journal where
  calls : List Call
  /-- How many scripted plugins were dropped. -/
  drops : Nat
  deriving DecidableEq, Repr

def Journal.empty : Journal := ⟨[], 0⟩

variable {abi : Abi}

/-- Remembers a call. -/
def remember (c : Call) : Code abi Journal Unit :=
  modify fun w => { w with own := { w.own with calls := w.own.calls ++ [c] } }

/-- Behaves in a call without a list. -/
def Behaviour.act : Behaviour → Code abi Journal Unit
  | .succeed => pure ()
  | .fail f => Code.fail f
  | .panic p => Code.panic p
  | .submit s => Code.submit s
  | .askRates => pure ()

/-- Behaves in a call with a list. -/
def Behaviour.actOn (b : Behaviour) (l : ValueList) : Code abi Journal Unit :=
  match b with
  | .askRates => do remember (.rates (← Code.rates l))
  | b => b.act

/-- A plugin by what it does. -/
inductive PluginScript where
  | acting (capabilities : Capabilities) (read write flush log : Behaviour)
  /-- Has capabilities and does nothing. -/
  | quiet (capabilities : Capabilities)
  deriving DecidableEq, Repr

/-- A plugin that follows its script. -/
def PluginScript.plugin : PluginScript → Plugin abi Journal
  | .quiet capabilities => Plugin.idle capabilities
  | .acting capabilities read write flush log =>
    { capabilities := pure capabilities
      read := do remember .read; read.act
      write := fun l => do remember (.write l); write.actOn l
      flush := fun timeout id => do remember (.flush timeout id); flush.act
      log := fun severity message => do remember (.log severity message); log.act
      release := fun own => { own with drops := own.drops + 1 } }

/-- The plugins that a manager returns. -/
inductive SetScript where
  | single (p : PluginScript)
  | multiple (ps : List (String × PluginScript))
  /-- A reporter for each configured node, or a single one without configuration. -/
  | fleet
  deriving DecidableEq, Repr

/-- The nodes of a fleet. -/
def fleetSchema : Config.Schema :=
  .record "Fleet" false
    (.defaulted "node" "Node" (.list [])
      (.list (.record "Node" false
        (.required "name" "Name" (.text "a string")
          (.defaulted "reading" "Reading" (.double .one) .double .nil)))) .nil)

/-- Reports one gauge. -/
def reporter (manager : String) (node : Option String) (reading : Double) : PluginScript :=
  .acting ⟨true, false, false, false⟩
    (.submit
      { Submission.named manager "gauge" with
        values := [.gauge reading]
        pluginInstance := node })
    .succeed .succeed .succeed

/-- The plugins of a fleet. -/
def fleet (manager : String) (config : Option (List Config.Item)) :
    Code abi Journal (PluginSet abi Journal) := do
  match config with
  | none => return .single (reporter manager none .one).plugin
  | some items =>
    let d ← Code.ofDecoded (fleetSchema.decodeItems items)
    return .multiple ((d.field "node").toList.map fun node =>
      let name := (node.field "name").toText
      (name, (reporter manager (some name) (node.field "reading").toDouble).plugin))

/-- A manager by what it does. -/
structure ManagerScript where
  name : String
  wantsStart : Bool
  /-- What it does before it returns plugins. -/
  first : Behaviour
  set : SetScript
  /-- What its own calls do; none leaves them as they are by default. -/
  calls : Option (Behaviour × Behaviour)
  deriving DecidableEq, Repr

/-- A manager that follows its script. -/
def ManagerScript.manager (s : ManagerScript) : Manager abi Journal where
  name := s.name
  wantsStart := pure s.wantsStart
  plugins config := do
    remember (.plugins (config.map fun items => items.map (·.key)))
    s.first.act
    match s.set with
    | .single p => return .single p.plugin
    | .multiple ps => return .multiple (ps.map fun entry => (entry.1, entry.2.plugin))
    | .fleet => fleet s.name config
  start :=
    match s.calls with
    | some (start, _) => do remember .start; start.act
    | none => Code.fail Failure.notImplemented
  shutdown :=
    match s.calls with
    | some (_, shutdown) => do remember .shutdown; shutdown.act
    | none => pure ()

end Scripted

end PluginKit
