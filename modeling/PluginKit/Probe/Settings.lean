import PluginKit.Header.Version
import PluginKit.Log.Level

/-!
# `PluginKit.Probe.Settings`: what the inspection of headers goes by

* `Format`: how a result is printed.
* `Settings`, `Settings.initial`: the settings of a file and those without one.
* `Settings.validate`: what is wrong with settings.
-/

set_option autoImplicit false

namespace PluginKit

namespace Probe

/-- How a result is printed. -/
inductive Format where
  | text
  | json
  /-- Flags for a compiler. -/
  | cflags
  deriving DecidableEq, Repr

namespace Format

def all : List Format := [.text, .json, .cflags]

def name : Format → String
  | .text => "text"
  | .json => "json"
  | .cflags => "cflags"

/-- The format of a name. -/
def ofName? (s : String) : Option Format := all.find? fun f => f.name == s

end Format

/-- What can be set in a file. -/
structure Settings where
  /-- A source checkout of the daemon. -/
  collectdPath : Option String
  /-- Whether the headers of an installed 5.4 are meant. -/
  collectd54 : Bool
  /-- Where installed headers are looked for. -/
  searchRoots : List String
  /-- The daemon's release; without it the layout decides. -/
  version : Option String
  format : Format
  /-- The level of the program's own log. -/
  level : String
  deriving DecidableEq, Repr

/-- Why settings are refused. -/
inductive Invalid where
  | version (text : String)
  | emptyPath
  | noRoots
  | level (text : String)
  deriving DecidableEq, Repr

def Invalid.message : Invalid → String
  | .version text => "Unsupported collectd version: " ++ text
  | .emptyPath => "collectd_path must not be empty, leave it unset instead"
  | .noRoots => "search_roots must not be empty"
  | .level text => "Invalid log level: " ++ text

namespace Settings

/-- The settings without a file. -/
def initial : Settings where
  collectdPath := none
  collectd54 := false
  searchRoots := ["/usr/include", "/usr/local/include", "/opt/collectd/include"]
  version := none
  format := .text
  level := "info"

/-! ### What may be wrong -/

def versionFault? (s : Settings) : Option Invalid :=
  s.version.bind fun v => if (Header.Version.parse v).isSome then none else some (.version v)

def pathFault? (s : Settings) : Option Invalid :=
  if s.collectdPath = some "" then some .emptyPath else none

/-- Without a source checkout there has to be a place to look at. -/
def rootsFault? (s : Settings) : Option Invalid :=
  if s.searchRoots.isEmpty ∧ s.collectdPath.isNone then some .noRoots else none

def levelFault? (s : Settings) : Option Invalid :=
  if (Log.Level.parse s.level).isSome then none else some (.level s.level)

/-- Whether the path makes the version flag void. -/
def shadowed (s : Settings) : Bool := s.collectdPath.isSome && s.collectd54

/-- The first fault of some settings. -/
def validate (s : Settings) : Except Invalid Unit :=
  match s.versionFault? <|> s.pathFault? <|> s.rootsFault? <|> s.levelFault? with
  | some e => .error e
  | none => .ok ()

/-- Whether the check gets as far as to warn of a void flag. The version and the path are looked at
before. -/
def warns (s : Settings) : Bool :=
  s.shadowed && s.versionFault?.isNone && s.pathFault?.isNone

end Settings

end Probe

end PluginKit
