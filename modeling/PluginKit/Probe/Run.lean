import PluginKit.Log.Logger
import PluginKit.Probe.Command
import PluginKit.Probe.Store
import PluginKit.Text.Terminal

/-!
# `PluginKit.Probe.Run`: carrying commands out

A command gives a row of outputs and an exit code. The program's own log is among the outputs, and a
filter decides which of its messages are shown.

* `Run.resolve`, `Run.wrapper`, `Run.check`, `Run.validate`, `Run.config`: the commands.
* `Run.logFilter`: what is shown of the log.
* `run`: a command line from its arguments to what it prints.
-/

set_option autoImplicit false

namespace PluginKit

namespace Probe

open Header

/-- What a command has to say. -/
inductive Output where
  | out (text : String)
  | err (text : String)
  | log (event : Log.Event)
  deriving DecidableEq, Repr

/-- What came of a command. -/
structure Run where
  outputs : List Output
  exit : Nat
  deriving DecidableEq, Repr

namespace Output

/-- A message of the program. -/
def message (level : Log.Level) (text : String) : Output :=
  .log (.ofText level "cdshim_probe" text)

/-- A message about settings. -/
def settingsMessage (level : Log.Level) (text : String) : Output :=
  .log (.ofText level "cdshim_probe::config" text)

/-- What goes to standard output. -/
def stdout : Output → String
  | .out text => text
  | _ => ""

/-- What goes to standard error. A message of the log may have file names in it, so it is kept from
driving the terminal. -/
def stderr (filter : Log.Filter) : Output → String
  | .out _ => ""
  | .err text => text
  | .log e =>
    if filter.enabled e.target e.fieldNames e.level then
      e.level.name ++ " " ++ e.target ++ ": " ++ Terminal.shown e.text ++ "\n"
    else ""

end Output

namespace Run

/-- A run that ends with an error. -/
def failed (outputs : List Output) (f : Failure) : Run := ⟨outputs ++ [.err f.report], 1⟩

/-! ### The layout -/

/-- What the layers say about the layout, and what is said about it on the way. -/
structure Resolved where
  outputs : List Output
  flags : Flags
  result : Except UnknownVersion Resolution

/-- Resolves the layout. -/
def resolved (env : Lookup) (settings : Settings) (overrides : Overrides) : Resolved :=
  let flags := layeredFlags (Flags.ofLookup env) settings overrides
  let result := Resolution.resolve flags settings overrides env
  let warnings := if flags.shadowed then
    [.message .warn "collectd-54 is set along with a collectd path, using the source tree"] else []
  let found := match result with
    | .ok r => [.message .debug ("resolved " ++ r.summary)]
    | .error _ => []
  ⟨warnings ++ found, flags, result⟩

/-- Prints the resolution. -/
def resolve (env : Lookup) (settings : Settings) (overrides : Overrides) (format : Option Format) :
    Run :=
  let r := resolved env settings overrides
  match r.result with
  | .error e => failed r.outputs (.plain e.message)
  | .ok resolution =>
    ⟨r.outputs ++ [.out (resolution.render (format.getD settings.format) ++ "\n")], 0⟩

/-- Prints the header that includes the headers of the layout. -/
def wrapper (env : Lookup) (settings : Settings) (overrides : Overrides) : Run :=
  let r := resolved env settings overrides
  match r.result with
  | .error e => failed r.outputs (.plain e.message)
  | .ok _ => ⟨r.outputs ++ [.out r.flags.layout.wrapper], 0⟩

/-- Looks for the headers of the layout. -/
def check {m : Type → Type} [Monad m] (files : Files m) (env : Lookup) (settings : Settings)
    (overrides : Overrides) (roots : List String) : m Run := do
  let r := resolved env settings overrides
  match r.result with
  | .error e => return failed r.outputs (.plain e.message)
  | .ok resolution =>
    let roots := searchRoots r.flags.layout r.flags settings roots
    let start := r.outputs ++ [.message .info ("Checking " ++ resolution.layout.name ++
      " layout under " ++ toString roots.length ++ " roots")]
    match ← r.flags.layout.locate files.isFile roots with
    | .ok found =>
      return ⟨start ++ found.map (fun path => .out ("found: " ++ path ++ "\n")) ++
        [.out ("✓ All " ++ toString resolution.includes.length ++ " headers found\n")], 0⟩
    | .error missing => return ⟨start ++ [.err ("✗ " ++ missing.message ++ "\n")], 1⟩

/-! ### The settings -/

/-- What is said about a file that is read. -/
def loadedMessage (path : String) : Output :=
  .settingsMessage .info ("Loaded configuration from: " ++ path)

/-- Looks through the settings of a file. -/
def validate {m : Type → Type} [Monad m] (files : Files m) (path : String) : m Run := do
  let start := [Output.message .info ("Validating configuration: " ++ path)]
  match ← Store.initial.load files path with
  | (_, .error e) => return failed start e.failure
  | (store, .ok ()) =>
    let start := start ++ [loadedMessage path] ++
      (if store.settings.warns then
        [.settingsMessage .warn "collectd_path is set, collectd_54 will be ignored"] else [])
    match store.settings.validate with
    | .ok () => return ⟨start ++ [.out "✓ Configuration is valid\n"], 0⟩
    | .error e => return failed start (.plain e.message)

/-- Writes the initial settings to a file, which must be new unless it is to be overwritten. -/
def config {m : Type → Type} [Monad m] (files : Files m) (output : String) (force : Bool) :
    m Run := do
  if (← files.present output) && !force then
    return failed [] (.plain ("Configuration file already exists: " ++ output))
  else
    match ← Store.initial.save files output with
    | .error e => return failed [] e.failure
    | .ok () =>
      return ⟨[.settingsMessage .info ("Saved configuration to: " ++ output),
        .message .info ("Generated configuration file: " ++ output)], 0⟩

/-! ### The log -/

/-- The level in force: that of the settings, or more with the flag for it. -/
def logLevel (invocation : Invocation) (settings : Settings) : String :=
  if invocation.debug then "debug" else settings.level

/-- What is shown of the log. A filter in the environment wins if all of it is understood. -/
def logFilter (env : Lookup) (level : String) : Log.Filter :=
  ((env "RUST_LOG").bind Log.Filter.parse?).getD (Log.Filter.parse level)

/-- What is said about the parts of a level that are not understood. -/
def logNotes (env : Lookup) (level : String) : List Output :=
  if ((env "RUST_LOG").bind Log.Filter.parse?).isSome then []
  else (Log.Filter.refused level).map fun r =>
    .err ("ignoring `" ++ r.1 ++ "`: " ++ r.2.message ++ "\n")

/-! ### Commands -/

/-- The settings that a command goes by: those of the file, if it is there and the command is about
the layout. -/
def settingsFor {m : Type → Type} [Monad m] (files : Files m) (invocation : Invocation) :
    m (Except StoreError Settings) := do
  match invocation.command with
  | .validate | .config .. => return .ok .initial
  | _ =>
    if ← files.present invocation.config then
      match ← Store.initial.load files invocation.config with
      | (store, .ok ()) => return .ok store.settings
      | (_, .error e) => return .error e
    else return .ok .initial

/-- Carries a command out under some settings. -/
def command {m : Type → Type} [Monad m] (files : Files m) (env : Lookup) (settings : Settings)
    (invocation : Invocation) : m Run :=
  match invocation.command with
  | .resolve overrides format => return resolve env settings overrides format
  | .wrapper overrides => return wrapper env settings overrides
  | .check overrides roots => check files env settings overrides roots
  | .validate => validate files invocation.config
  | .config output force => config files output force

end Run

/-- What a command line leaves behind on a terminal. -/
structure Printed where
  exit : Nat
  stdout : String
  stderr : String
  deriving DecidableEq, Repr

/-- What a run prints. -/
def Run.printed (filter : Log.Filter) (r : Run) : Printed where
  exit := r.exit
  stdout := String.join (r.outputs.map Output.stdout)
  stderr := String.join (r.outputs.map (Output.stderr filter))

/-- Carries out a command line. The log starts once the settings are known. A malformed command line
does nothing. -/
def run {m : Type → Type} [Monad m] (files : Files m) (env : Lookup) (arguments : List String) :
    m Printed := do
  match Invocation.parse arguments with
  | none => return ⟨2, "", ""⟩
  | some invocation =>
    match ← Run.settingsFor files invocation with
    | .error e =>
      return (Run.failed [] (e.failure.context "Failed to load configuration")).printed .nothing
    | .ok settings =>
      let level := Run.logLevel invocation settings
      let r ← Run.command files env settings invocation
      return (Run.mk (Run.logNotes env level ++ r.outputs) r.exit).printed
        (Run.logFilter env level)

end Probe

end PluginKit
