import PluginKit.Log.Filter

/-!
# `PluginKit.Log.Logger`: a plugin's messages as lines of the daemon's log

* `Event`: a message with its level, its target, and the module it comes from.
* `Logger.line`: the line that an event becomes.
* `Record`: a line in the daemon's log.
-/

set_option autoImplicit false

namespace PluginKit

namespace Log

/-- A line in the daemon's log. -/
structure Record where
  severity : Severity
  text : String
  deriving DecidableEq, Repr

/-- A line ends at a zero byte, so none is let into the log. -/
def Record.ofText (severity : Severity) (text : String) : Record :=
  ⟨severity, String.ofList (text.toList.filter (· ≠ '\x00'))⟩

/-- A message of a plugin. The message itself is the field `message`. -/
structure Event where
  level : Level
  target : String
  module : String
  fields : List (String × String)
  deriving DecidableEq, Repr

namespace Event

/-- A message without further fields, whose target is the module it comes from. -/
def ofText (level : Level) (module text : String) : Event :=
  ⟨level, module, module, [("message", text)]⟩

/-- The names of the fields. -/
def fieldNames (e : Event) : List String := e.fields.map (·.1)

/-- The fields on one line: the message as it is, every other field with its name. -/
def text (e : Event) : String :=
  String.join (e.fields.map fun f =>
    if f.1 = "message" then f.2 else " " ++ f.1 ++ "=" ++ f.2)

end Event

/-- Turns events into lines. -/
structure Logger where
  filter : Filter
  /-- The plugin's name, if lines start with it. -/
  plugin : Option String
  deriving DecidableEq, Repr

namespace Logger

/-- The line of an event. -/
def line (l : Logger) (e : Event) : Record :=
  let lead := match l.plugin with
    | some p => p ++ ": "
    | none => ""
  Record.ofText e.level.severity (lead ++ e.module ++ ": " ++ e.text)

/-- Whether an event is let through. -/
def enabled (l : Logger) (e : Event) : Bool := l.filter.enabled e.target e.fieldNames e.level

end Logger

/-- What a logger is built from. -/
structure LoggerSettings where
  level : Threshold
  directives : List Directive
  plugin : Option String
  deriving DecidableEq, Repr

namespace LoggerSettings

/-- Only errors, of everything. -/
def initial : LoggerSettings := ⟨some .error, [], none⟩

/-- Adds directives between commas. -/
def parse (s : LoggerSettings) (filters : String) : LoggerSettings :=
  { s with directives := s.directives ++ Directive.parseList filters }

/-- A level for a module. -/
def filterModule (s : LoggerSettings) (module : String) (level : Threshold) : LoggerSettings :=
  s.parse (module ++ "=" ++ level.name)

def build (s : LoggerSettings) : Logger := ⟨Filter.ofDirectives s.level s.directives, s.plugin⟩

end LoggerSettings

end Log

end PluginKit
