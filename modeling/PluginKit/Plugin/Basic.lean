import PluginKit.Plugin.Error

/-!
# `PluginKit.Plugin.Basic`: plugins and their managers

A plugin is code that the daemon calls. It acts on a `World`: the daemon's services, the loggers of
the process, and whatever state the plugin keeps. It cannot reach the daemon's list of callbacks.

* `Code`: plugin code, which may return, fail or panic.
* `Plugin`, `Manager`: the calls that the daemon makes.
* `World.call`: runs plugin code and turns what went wrong into a `CallbackError`.
-/

set_option autoImplicit false

namespace PluginKit

/-- The loggers of a process. -/
structure Diagnostics where
  /-- The logger of a part of the program; it comes before the one of the process. -/
  inner : Option Log.Logger
  process : Option Log.Logger
  /-- How many times panics are reported. -/
  panicHooks : Nat
  deriving DecidableEq, Repr

namespace Diagnostics

/-- No logger, and nobody who reports panics. -/
def initial : Diagnostics := ⟨none, none, 0⟩

/-- The logger that takes messages now. -/
def active (d : Diagnostics) : Option Log.Logger := d.inner <|> d.process

/-- All loggers there are. -/
def loggers (d : Diagnostics) : List Log.Logger := d.inner.toList ++ d.process.toList

/-- Whether messages of a target and level are left to the loggers: when one of them expects such
messages, or watches spans, whose messages it cannot know beforehand. All loggers are asked, the
active one and one that it stands in for. -/
def claims (d : Diagnostics) (target : String) (level : Log.Level) : Bool :=
  d.loggers.any (fun l => l.filter.most.allows level) &&
    d.loggers.any fun l => l.filter.expects target level || l.filter.watchesSpans

/-- Whether the active logger expects messages of a target and level. -/
def expects (d : Diagnostics) (target : String) (level : Log.Level) : Bool :=
  d.active.any fun l => l.filter.expects target level

end Diagnostics

/-- What plugin code acts on. -/
structure World (abi : Abi) (σ : Type) where
  daemon : Daemon abi
  diagnostics : Diagnostics
  /-- The plugin's own state. -/
  own : σ

/-- Why plugin code does not return. -/
inductive Stop where
  | failed (f : Failure)
  | panicked (p : Panic)
  deriving DecidableEq, Repr

/-- Plugin code. -/
abbrev Code (abi : Abi) (σ : Type) := ExceptT Stop (StateM (World abi σ))

/-- The callbacks that a plugin wants to be registered. -/
structure Capabilities where
  read : Bool
  log : Bool
  write : Bool
  flush : Bool
  deriving DecidableEq, Repr

namespace Capabilities

def none : Capabilities := ⟨false, false, false, false⟩

/-- One bit for each callback; other bits say nothing. -/
def ofBits (bits : Nat) : Capabilities :=
  ⟨bits.testBit 0, bits.testBit 1, bits.testBit 2, bits.testBit 3⟩

def bits (c : Capabilities) : Nat :=
  c.read.toNat + 2 * c.log.toNat + 4 * c.write.toNat + 8 * c.flush.toNat

def isEmpty (c : Capabilities) : Bool := !(c.read || c.log || c.write || c.flush)

/-- The names of the callbacks that are wanted. -/
def describe (c : Capabilities) : String :=
  let names := (if c.read then ["READ"] else []) ++ (if c.log then ["LOG"] else []) ++
    (if c.write then ["WRITE"] else []) ++ (if c.flush then ["FLUSH"] else [])
  if names.isEmpty then "(empty)" else " | ".intercalate names

end Capabilities

/-- A plugin. -/
structure Plugin (abi : Abi) (σ : Type) where
  capabilities : Code abi σ Capabilities
  /-- Takes measurements and submits them. -/
  read : Code abi σ Unit
  /-- Is given every list that is dispatched. -/
  write : ValueList → Code abi σ Unit
  /-- Writes out what is older than a time, or only what an identifier names. -/
  flush : Option Duration → Option String → Code abi σ Unit
  /-- Is given every line of the daemon's log. -/
  log : Log.Severity → String → Code abi σ Unit
  /-- What becomes of the plugin's state when the plugin is dropped. -/
  release : σ → σ

/-- What a manager hands over. -/
inductive PluginSet (abi : Abi) (σ : Type) where
  /-- Registered under the manager's name. -/
  | single (p : Plugin abi σ)
  /-- Each registered under the manager's name and its own. -/
  | multiple (ps : List (String × Plugin abi σ))

/-- Builds plugins from configuration. -/
structure Manager (abi : Abi) (σ : Type) where
  name : String
  /-- Whether `start` is to be called when the daemon starts. -/
  wantsStart : Code abi σ Bool
  /-- The plugins for the lines of a block, or for no block at all. -/
  plugins : Option (List Config.Item) → Code abi σ (PluginSet abi σ)
  start : Code abi σ Unit
  shutdown : Code abi σ Unit

section

variable {abi : Abi} {σ : Type}

/-- Code that fails. -/
def Code.fail {α : Type} (f : Failure) : Code abi σ α := throw (.failed f)

/-- Code that panics. -/
def Code.panic {α : Type} (p : Panic) : Code abi σ α := throw (.panicked p)

namespace World

/-- Logs a line for the daemon whatever the loggers let through. -/
def record (w : World abi σ) (severity : Log.Severity) (text : String) : World abi σ :=
  { w with daemon := w.daemon.record (Log.Record.ofText severity text) }

/-- Logs a message if there is a logger that lets it through. -/
def emit (w : World abi σ) (e : Log.Event) : World abi σ :=
  match w.diagnostics.active with
  | none => w
  | some l => if l.enabled e then { w with daemon := w.daemon.record (l.line e) } else w

/-- Where errors of callbacks are logged. -/
def errorTarget : String := "cdshim::api::logger"

/-- Reports an error on one line, through the loggers if they claim it or else directly. What is
left to the loggers is lost if the active one did not expect it. -/
def reportError (w : World abi σ) (operation : String) (e : CallbackError) : World abi σ :=
  let text := e.report operation
  if !w.diagnostics.claims errorTarget .error then w.record .error text
  else if w.diagnostics.expects errorTarget .error then
    w.emit (Log.Event.ofText .error errorTarget text)
  else w

/-- Reports a panic, once for each time that this was asked for. -/
def reportPanic (w : World abi σ) (p : Panic) : World abi σ :=
  w.diagnostics.panicHooks.repeat (fun w => w.reportError "panic hook" (.panicHook p.describe)) w

/-- Runs code up to its end or to where it stops; a panic is reported where it happens. -/
def attempt {α : Type} (w : World abi σ) (code : Code abi σ α) : Except Stop α × World abi σ :=
  match code.run.run w with
  | (.error (.panicked p), w) => (.error (.panicked p), w.reportPanic p)
  | result => result

/-- Runs code for the daemon: neither an error nor a panic passes. -/
def call {α : Type} (w : World abi σ) (code : Code abi σ α) :
    Except CallbackError α × World abi σ :=
  match w.attempt code with
  | (.ok a, w) => (.ok a, w)
  | (.error (.failed f), w) => (.error (.plugin f), w)
  | (.error (.panicked _), w) => (.error .panicked, w)

end World

namespace Code

/-- Logs a message of the plugin. -/
def emit (e : Log.Event) : Code abi σ Unit := modify fun w => w.emit e

/-- Submits measurements. -/
def submit (s : Submission) : Code abi σ Unit := do
  let w ← get
  let (result, daemon) := s.submit w.daemon
  set { w with daemon := daemon }
  match result with
  | .ok () => pure ()
  | .error e => fail (Failure.ofSubmit e)

/-- The rates of a list. -/
def rates (l : ValueList) : Code abi σ (List Report) := do
  match l.rates (← get).daemon with
  | some reports => pure reports
  | none => fail (Failure.plain ValueList.noRates)

/-- Decodes configuration, or fails with what does not fit. -/
def ofDecoded {α : Type} (result : Except Config.DecodeError α) : Code abi σ α :=
  match result with
  | .ok a => pure a
  | .error e => fail (Failure.ofDecode e)

end Code

namespace Plugin

/-- A plugin that does nothing but have capabilities. -/
def idle (capabilities : Capabilities) : Plugin abi σ where
  capabilities := pure capabilities
  read := Code.fail Failure.notImplemented
  write _ := Code.fail Failure.notImplemented
  flush _ _ := Code.fail Failure.notImplemented
  log _ _ := Code.fail Failure.notImplemented
  release own := own

end Plugin

/-- A manager that has plugins and nothing else. -/
def Manager.ofPlugins (name : String)
    (plugins : Option (List Config.Item) → Code abi σ (PluginSet abi σ)) : Manager abi σ where
  name := name
  wantsStart := pure false
  plugins := plugins
  start := Code.fail Failure.notImplemented
  shutdown := pure ()

end

end PluginKit
