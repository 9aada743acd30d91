import PluginKit.Plugin.Basic

/-!
# `PluginKit.Plugin.Session`: registering plugins and serving the daemon's calls

A session is a daemon with the plugins of one manager. Registering hands each plugin's callbacks to
the daemon; a plugin belongs to the session from the moment that the manager returns it, and it is
dropped either when the daemon releases the first callback that it accepted, or at once if it
accepted none.

* `Session.registerPlugins`, `Session.registerModule`: handing callbacks over.
* `Session.config`, `Session.init`, `Session.shutdown`: the daemon's calls to a manager.
* `Session.read`, `Session.write`, `Session.flush`, `Session.log`: its calls to a plugin.
* `Session.releaseAll`: the end of all registrations.
* `Session.serve`: any of these calls.
-/

set_option autoImplicit false

namespace PluginKit

/-- The kinds of callback. -/
inductive CallbackKind where
  | config
  | init
  | shutdown
  | read
  | write
  | log
  | flush
  deriving DecidableEq, Repr

namespace CallbackKind

def name : CallbackKind → String
  | .config => "config"
  | .init => "init"
  | .shutdown => "shutdown"
  | .read => "read"
  | .write => "write"
  | .log => "log"
  | .flush => "flush"

def all : List CallbackKind := [.config, .init, .shutdown, .read, .write, .log, .flush]

end CallbackKind

/-- The number of a plugin in the order in which managers returned them. -/
abbrev PluginId := Nat

/-- A callback that the daemon has accepted. The daemon drops the owner's plugin with the callback
that `frees` it. Callbacks of a manager have no owner. -/
structure Registration where
  name : String
  kind : CallbackKind
  owner : Option PluginId
  frees : Bool
  deriving DecidableEq, Repr

/-- The callbacks that the daemon knows, and the kinds that it turns down, each with the status it
answers. The first rule for a kind counts. -/
structure Registry where
  registrations : List Registration
  rejections : List (CallbackKind × Int)
  deriving DecidableEq, Repr

namespace Registry

def initial : Registry := ⟨[], []⟩

/-- Takes a callback, or answers with the status of the rule against it. -/
def register (r : Registry) (entry : Registration) : Int × Registry :=
  match r.rejections.find? fun rule => rule.1 == entry.kind with
  | some rule => (rule.2, r)
  | none => (0, { r with registrations := r.registrations ++ [entry] })

/-- The callbacks of one kind. -/
def ofKind (r : Registry) (kind : CallbackKind) : List Registration :=
  r.registrations.filter fun entry => entry.kind == kind

end Registry

/-- A daemon with the plugins of one manager. -/
structure Session (abi : Abi) (σ : Type) where
  world : World abi σ
  registry : Registry
  /-- Whether the manager has been given its one chance to build plugins. -/
  configSeen : Bool
  /-- Every plugin that a manager returned; its place is its number. -/
  plugins : List (Plugin abi σ)
  /-- The plugins that were dropped, the latest last. -/
  dropped : List PluginId

/-- How a callback ends. -/
inductive Exit where
  | status (code : Int)
  /-- A panic left the callback. -/
  | escaped
  deriving DecidableEq, Repr

namespace Session

variable {abi : Abi} {σ : Type}

/-- A session before anything has happened. -/
def start (own : σ) : Session abi σ where
  world := ⟨.initial, .initial, own⟩
  registry := .initial
  configSeen := false
  plugins := []
  dropped := []

def mapWorld (s : Session abi σ) (f : World abi σ → World abi σ) : Session abi σ :=
  { s with world := f s.world }

/-- Reports an error of an operation. -/
def report (s : Session abi σ) (operation : String) (e : CallbackError) : Session abi σ :=
  s.mapWorld fun w => w.reportError operation e

/-- The status of an operation's result; an error is reported. -/
def status (operation : String) (result : Except CallbackError Unit) (s : Session abi σ) :
    Exit × Session abi σ :=
  match result with
  | .ok () => (.status 0, s)
  | .error e => (.status (-1), s.report operation e)

/-- Runs code for the daemon. -/
def call {α : Type} (s : Session abi σ) (code : Code abi σ α) :
    Except CallbackError α × Session abi σ :=
  let (result, world) := s.world.call code
  (result, { s with world := world })

/-- Runs code without catching panics. -/
def attempt {α : Type} (s : Session abi σ) (code : Code abi σ α) :
    Except Stop α × Session abi σ :=
  let (result, world) := s.world.attempt code
  (result, { s with world := world })

/-! ### Registering -/

/-- Drops a plugin. -/
def drop (s : Session abi σ) (id : PluginId) : Session abi σ :=
  let s := { s with dropped := s.dropped ++ [id] }
  match s.plugins[id]? with
  | none => s
  | some p => s.mapWorld fun w => { w with own := p.release w.own }

/-- Drops plugins that were never registered. -/
def dropAll (s : Session abi σ) (ids : List PluginId) : Session abi σ := ids.foldl drop s

/-- Where registering is logged. -/
def registrationTarget : String := "cdshim::internal"

/-- Logs a message about registering. -/
def note (s : Session abi σ) (level : Log.Level) (text : String) : Session abi σ :=
  s.mapWorld fun w => w.emit (Log.Event.ofText level registrationTarget text)

/-- The kinds of callback to register, in their order. -/
def wantedKinds (c : Capabilities) : List CallbackKind :=
  (if c.read then [.read] else []) ++ (if c.write then [.write] else []) ++
    (if c.log then [.log] else []) ++ (if c.flush then [.flush] else [])

/-- How registering the callbacks of one plugin stands. -/
structure Attempt (abi : Abi) (σ : Type) where
  session : Session abi σ
  /-- A callback was accepted, so the daemon owns the plugin. -/
  owned : Bool
  /-- The first callback that was turned down. -/
  rejected : Option (CallbackKind × Int)

/-- Registers one callback. The first one that is accepted carries the plugin. -/
def Attempt.register (name : String) (id : PluginId) (a : Attempt abi σ) (kind : CallbackKind) :
    Attempt abi σ :=
  let (status, registry) := a.session.registry.register ⟨name, kind, some id, !a.owned⟩
  if status = 0 then
    { a with session := { a.session with registry := registry }, owned := true }
  else
    { a with
      session := a.session.note .warn
        ("collectd rejected " ++ kind.name ++ " callback of " ++ name ++ ": " ++ toString status)
      rejected := a.rejected <|> some (kind, status) }

/-- How registering a plugin ends. -/
inductive Registered where
  | done
  | failed (e : CallbackError)
  | escaped
  deriving DecidableEq, Repr

/-- Registers what a plugin wants under a name. All callbacks are tried, and the first one that was
turned down is the error. A plugin of which nothing was accepted is dropped. -/
def registerPlugin (s : Session abi σ) (name : String) (id : PluginId) (p : Plugin abi σ) :
    Registered × Session abi σ :=
  match s.attempt p.capabilities with
  | (.error _, s) => (.escaped, s.drop id)
  | (.ok wanted, s) =>
    if name.toList.contains '\x00' then (.failed (.name name), s.drop id)
    else if wanted.isEmpty then
      (.done, (s.note .warn
        ("plugin " ++ name ++ " advertises no capabilities, nothing to register")).drop id)
    else
      let s := s.note .debug ("registering " ++ name ++ " with " ++ wanted.describe)
      let a := (wantedKinds wanted).foldl (Attempt.register name id) ⟨s, false, none⟩
      let s := if a.owned then a.session else a.session.drop id
      match a.rejected with
      | none => (.done, s)
      | some (kind, status) => (.failed (.registration kind.name status), s)

/-- Registers plugins up to the first that fails; those after it are dropped. -/
def registerList (s : Session abi σ) :
    List (String × PluginId × Plugin abi σ) → Registered × Session abi σ
  | [] => (.done, s)
  | (name, id, p) :: rest =>
    match s.registerPlugin name id p with
    | (.done, s) => s.registerList rest
    | (result, s) => (result, s.dropAll (rest.map fun entry => entry.2.1))

/-- Names for the plugins of a manager: its own for a single one, its own and theirs for several. -/
def named (manager : String) : PluginSet abi σ → List (String × Plugin abi σ)
  | .single p => [(manager, p)]
  | .multiple ps => ps.map fun entry => (manager ++ "/" ++ entry.1, entry.2)

/-- Takes plugins into the session and gives them numbers. -/
def adopt (s : Session abi σ) (ps : List (String × Plugin abi σ)) :
    List (String × PluginId × Plugin abi σ) × Session abi σ :=
  ((ps.zipIdx s.plugins.length).map fun entry => (entry.1.1, entry.2, entry.1.2),
    { s with plugins := s.plugins ++ ps.map Prod.snd })

/-- Lets the manager build its plugins and registers them. -/
def registerPlugins (m : Manager abi σ) (config : Option (List Config.Item))
    (s : Session abi σ) : Exit × Session abi σ :=
  match s.call (m.plugins config) with
  | (.error e, s) => status "collectd config" (.error e) s
  | (.ok set, s) =>
    let (entries, s) := s.adopt (named m.name set)
    match s.registerList entries with
    | (.done, s) => (.status 0, s)
    | (.failed e, s) => status "collectd config" (.error e) s
    | (.escaped, s) => (.escaped, s)

/-- Registers the callbacks of a manager, whatever the daemon answers. -/
def registerModule (m : Manager abi σ) (s : Session abi σ) : Session abi σ :=
  if m.name.toList.contains '\x00' then s.report "module register" (.name m.name)
  else
    { s with
      registry := [CallbackKind.config, .init, .shutdown].foldl
        (fun r kind => (r.register ⟨m.name, kind, none, false⟩).2) s.registry }

/-- Has panics reported once more. -/
def hookPanics (s : Session abi σ) : Session abi σ :=
  s.mapWorld fun w =>
    { w with diagnostics := { w.diagnostics with panicHooks := w.diagnostics.panicHooks + 1 } }

/-- Ends all registrations. The daemon frees what they carry and answers how much that was. -/
def releaseAll (s : Session abi σ) : Nat × Session abi σ :=
  let owned := (s.registry.registrations.filter (·.frees)).filterMap (·.owner)
  (owned.length,
    { s with registry := { s.registry with registrations := [] } }.dropAll owned)

/-! ### Calls to the manager -/

/-- The daemon has read its configuration. A second block is refused. -/
def config (m : Manager abi σ) (item : Option Config.RawItem) (s : Session abi σ) :
    Exit × Session abi σ :=
  if s.configSeen then (.status (-1), s.report "config" .multipleConfig)
  else
    let s := { s with configSeen := true }
    match item with
    | none => s.registerPlugins m none
    | some item =>
      match Config.Item.ofRaw item with
      | .ok item => s.registerPlugins m (some item.children)
      | .error e =>
        (.status (-1), s.report "collectd config conversion" (.daemon (Failure.ofConfig e)))

/-- The daemon starts. Without a block the manager builds its plugins now. -/
def init (m : Manager abi σ) (s : Session abi σ) : Exit × Session abi σ :=
  let first :=
    if s.configSeen then (Exit.status 0, s)
    else { s with configSeen := true }.registerPlugins m none
  match first with
  | (.escaped, s) => (.escaped, s)
  | (.status code, s) =>
    match s.attempt m.wantsStart with
    | (.error _, s) => (.escaped, s)
    | (.ok false, s) => (.status code, s)
    | (.ok true, s) =>
      match s.call m.start with
      | (.ok (), s) => (.status code, s)
      | (.error e, s) => (.status (-1), s.report "init" e)

/-- The daemon stops. -/
def shutdown (m : Manager abi σ) (s : Session abi σ) : Exit × Session abi σ :=
  let (result, s) := s.call m.shutdown
  status "shutdown" result s

/-! ### Calls to a plugin -/

/-- The plugin that the daemon passes back. -/
def pluginOf (s : Session abi σ) (data : Option PluginId) : Option (Plugin abi σ) :=
  data.bind fun id => s.plugins[id]?

/-- The daemon forgot whose callback it calls. -/
def noData : CallbackError := .daemon (Failure.plain "collectd passed no user data")

/-- The daemon called for measurements and gave none. -/
def noList : CallbackError := .daemon (Failure.plain "collectd passed no value list")

/-- Calls code of the plugin, or reports that there is no plugin. -/
def callPlugin (operation : String) (data : Option PluginId)
    (code : Plugin abi σ → Except CallbackError (Code abi σ Unit)) (s : Session abi σ) :
    Exit × Session abi σ :=
  match s.pluginOf data with
  | none => status operation (.error noData) s
  | some p =>
    match code p with
    | .error e => status operation (.error e) s
    | .ok code =>
      let (result, s) := s.call code
      status operation result s

/-- The daemon wants measurements. -/
def read (data : Option PluginId) (s : Session abi σ) : Exit × Session abi σ :=
  s.callPlugin "read" data fun p => .ok p.read

/-- The list that a plugin is given. -/
def receivedList (set : Option (DataSet abi)) (list : Option (RawList abi)) :
    Except CallbackError ValueList :=
  match set, list with
  | some set, some list =>
    (ValueList.ofRaw set list).mapError fun e => .daemon (Failure.ofReceive e)
  | _, _ => .error noList

/-- The daemon has measurements. -/
def write (data : Option PluginId) (set : Option (DataSet abi)) (list : Option (RawList abi))
    (s : Session abi σ) : Exit × Session abi σ :=
  s.callPlugin "writing" data fun p => (receivedList set list).map p.write

/-- The identifier that a plugin is given; an empty one is none. -/
def flushIdentifier : Option (List UInt8) → Except CallbackError (Option String)
  | none => .ok none
  | some bytes =>
    match Utf8.decode (Terminated.bytes bytes) with
    | .ok s => .ok (nonEmptyText s)
    | .error fault => .error (.illegibleText "flush identifier" fault)

/-- The timeout that a plugin is given; zero is none. -/
def flushTimeout (timeout : Ticks) : Option Duration :=
  if timeout = 0 then none else some (Ticks.toDuration timeout)

/-- The daemon wants things written out. -/
def flush (data : Option PluginId) (timeout : Ticks) (identifier : Option (List UInt8))
    (s : Session abi σ) : Exit × Session abi σ :=
  s.callPlugin "flush" data fun p =>
    (flushIdentifier identifier).map fun id => p.flush (flushTimeout timeout) id

/-- The daemon has a line of its log. This call has no status, and nothing is reported when there is
no plugin or no line. -/
def log (data : Option PluginId) (severity : Int) (message : Option (List UInt8))
    (s : Session abi σ) : Session abi σ :=
  match message, s.pluginOf data with
  | some bytes, some p =>
    match Log.Severity.ofCode? severity with
    | none => s.report "logging" (.unknownSeverity severity)
    | some level =>
      match s.call (p.log level (Utf8.decodeLossy (Terminated.bytes bytes))) with
      | (.ok (), s) => s
      | (.error e, s) => s.report "logging" e
  | _, _ => s

/-! ### All calls -/

/-- A call from the daemon, or a change of what it will answer. -/
inductive Request (abi : Abi) where
  | module
  | config (item : Option Config.RawItem)
  | init
  | shutdown
  | read (data : Option PluginId)
  | write (data : Option PluginId) (set : Option (DataSet abi)) (list : Option (RawList abi))
  | flush (data : Option PluginId) (timeout : Ticks) (identifier : Option (List UInt8))
  | log (data : Option PluginId) (severity : Int) (message : Option (List UInt8))
  | reject (kind : CallbackKind) (status : Int)
  | rates (rates : Option (List Double))
  | dispatchStatus (status : Int)
  | release

/-- How a call ends for the daemon. -/
inductive Answer where
  | nothing
  | exit (e : Exit)
  | released (count : Nat)
  deriving DecidableEq, Repr

def exits (result : Exit × Session abi σ) : Answer × Session abi σ := (.exit result.1, result.2)

/-- Changes the daemon's answers. -/
def mapDaemon (s : Session abi σ) (f : Daemon abi → Daemon abi) : Session abi σ :=
  s.mapWorld fun w => { w with daemon := f w.daemon }

/-- Serves one call. -/
def serve (m : Manager abi σ) (s : Session abi σ) : Request abi → Answer × Session abi σ
  | .module => (.nothing, s.registerModule m)
  | .config item => exits (s.config m item)
  | .init => exits (s.init m)
  | .shutdown => exits (s.shutdown m)
  | .read data => exits (s.read data)
  | .write data set list => exits (s.write data set list)
  | .flush data timeout identifier => exits (s.flush data timeout identifier)
  | .log data severity message => (.nothing, s.log data severity message)
  | .reject kind status =>
    (.nothing,
      { s with registry :=
        { s.registry with rejections := s.registry.rejections ++ [(kind, status)] } })
  | .rates rates => (.nothing, s.mapDaemon fun d => { d with rates := rates })
  | .dispatchStatus status => (.nothing, s.mapDaemon fun d => { d with dispatchStatus := status })
  | .release =>
    let (count, s) := s.releaseAll
    (.released count, s)

end Session

end PluginKit
