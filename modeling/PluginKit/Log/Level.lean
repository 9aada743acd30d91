import PluginKit.Number.Word
import PluginKit.Text.CharClass

/-!
# `PluginKit.Log.Level`: how grave a message is

* `Severity`: the levels of the daemon's log.
* `Level`: the levels a plugin logs at; `Level.parse` reads one.
* `Threshold.parse`, `Threshold.name`: a threshold's spelling.
* `Threshold.allows`: whether a message of some level is let through.
-/

set_option autoImplicit false

namespace PluginKit

namespace Log

/-- The levels of the daemon's log. -/
inductive Severity where
  | error
  | warning
  | notice
  | info
  | debug
  deriving DecidableEq, Repr

namespace Severity

/-- The daemon's number for a level. -/
def code : Severity → Int
  | .error => 3
  | .warning => 4
  | .notice => 5
  | .info => 6
  | .debug => 7

/-- The level of a number. -/
def ofCode? (code : Int) : Option Severity :=
  match code with
  | 3 => some .error
  | 4 => some .warning
  | 5 => some .notice
  | 6 => some .info
  | 7 => some .debug
  | _ => none

end Severity

/-- The levels of a plugin's own messages. -/
inductive Level where
  | error
  | warn
  | info
  | debug
  | trace
  deriving DecidableEq, Repr

namespace Level

/-- More detail has a higher rank. -/
def rank : Level → Nat
  | .error => 1
  | .warn => 2
  | .info => 3
  | .debug => 4
  | .trace => 5

/-- The daemon has no level below debug and no use of its own for notice. -/
def severity : Level → Severity
  | .error => .error
  | .warn => .warning
  | .info => .info
  | .debug => .debug
  | .trace => .debug

def name : Level → String
  | .error => "ERROR"
  | .warn => "WARN"
  | .info => "INFO"
  | .debug => "DEBUG"
  | .trace => "TRACE"

/-- Reads a level: its name in any case, or its rank. -/
def parse (s : String) : Option Level :=
  match Word.readNat? s.toList with
  | some 1 => some .error
  | some 2 => some .warn
  | some 3 => some .info
  | some 4 => some .debug
  | some 5 => some .trace
  | some _ => none
  | none =>
    match Text.upperAscii s with
    | "ERROR" => some .error
    | "WARN" => some .warn
    | "INFO" => some .info
    | "DEBUG" => some .debug
    | "TRACE" => some .trace
    | _ => none

end Level

/-- The most detailed level that is let through; none lets nothing through. -/
abbrev Threshold := Option Level

/-- Whether a message of some level is let through. -/
def Threshold.allows (threshold : Threshold) (level : Level) : Bool :=
  match threshold with
  | none => false
  | some most => level.rank ≤ most.rank

/-- The threshold of two that lets more through. -/
def Threshold.max (a b : Threshold) : Threshold :=
  match a, b with
  | none, b => b
  | a, none => a
  | some x, some y => if x.rank < y.rank then some y else some x

/-- Reads a threshold: a level, `off`, or zero for nothing. No text at all means errors only. -/
def Threshold.parse (s : String) : Option Threshold :=
  match Level.parse s with
  | some level => some (some level)
  | none =>
    if s = "" then some (some .error)
    else if Word.readNat? s.toList = some 0 ∨ Text.upperAscii s = "OFF" then some none
    else none

/-- The threshold's name in directives. -/
def Threshold.name : Threshold → String
  | none => "off"
  | some .error => "error"
  | some .warn => "warn"
  | some .info => "info"
  | some .debug => "debug"
  | some .trace => "trace"

end Log

end PluginKit
