import PluginKit.Config.Item
import PluginKit.Config.Schema
import PluginKit.Failure
import PluginKit.ValueList.Received
import PluginKit.ValueList.Submission

/-!
# `PluginKit.Plugin.Error`: what goes wrong when the daemon calls a plugin

* `Failure.ofSubmit` and its kin: errors of the library as errors of plugin code.
* `Panic`: plugin code that broke off.
* `CallbackError`: what is reported to the daemon's log, with `CallbackError.texts` for one line.
-/

set_option autoImplicit false

namespace PluginKit

namespace Failure

def ofSubmit (e : SubmitError) : Failure := ⟨e.message, e.causes⟩

def ofReceive (e : ReceiveError) : Failure := ⟨e.message, e.causes⟩

def ofConfig (e : Config.Error) : Failure := ⟨e.message, e.causes⟩

def ofDecode (e : Config.DecodeError) : Failure := ⟨e.message, []⟩

/-- A plugin was asked for something that it does not do. -/
def notImplemented : Failure := plain "function is not implemented"

end Failure

/-- Plugin code that broke off somewhere. -/
structure Panic where
  location : String
  message : String
  deriving DecidableEq, Repr

def Panic.describe (p : Panic) : String := "panicked at " ++ p.location ++ ":\n" ++ p.message

/-- What is reported when a call from the daemon goes wrong. -/
inductive CallbackError where
  /-- The plugin's own error. -/
  | plugin (f : Failure)
  | panicked
  /-- What a panic said. -/
  | panicHook (text : String)
  | unknownSeverity (code : Int)
  | multipleConfig
  /-- A name that cannot be registered. -/
  | name (text : String)
  | registration (kind : String) (status : Int)
  | illegibleText (what : String) (fault : Utf8.Fault)
  /-- The daemon did something unforeseen. -/
  | daemon (cause : Failure)
  deriving DecidableEq, Repr

namespace CallbackError

def message : CallbackError → String
  | .plugin _ => "plugin encountered an error"
  | .panicked => "plugin panicked"
  | .panicHook text => "panic hook: " ++ text
  | .unknownSeverity code => "unknown severity: " ++ toString code
  | .multipleConfig =>
    "already seen a config section, group configuration under nodes instead"
  | .name text => "plugin name " ++ Quoted.render text ++ " contains a null character"
  | .registration kind status =>
    "collectd rejected " ++ kind ++ " registration with status " ++ toString status
  | .illegibleText what _ => "invalid utf8 in " ++ what
  | .daemon _ => "unexpected collectd behavior"

/-- The messages behind an error, nearest first. -/
def causes : CallbackError → List String
  | .plugin f => f.chain
  | .illegibleText _ fault => [fault.message]
  | .daemon cause => cause.chain
  | _ => []

/-- The error and everything behind it. -/
def texts (e : CallbackError) : List String := e.message :: e.causes

/-- The line that reports an error of some operation. -/
def report (operation : String) (e : CallbackError) : String :=
  operation ++ " error: " ++ "; ".intercalate e.texts

end CallbackError

end PluginKit
