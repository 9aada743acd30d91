import PluginKit.Number.Layout

/-!
# `PluginKit.Value`: measurements

A measurement is a number with a kind. The kind says how the daemon aggregates it and which of its
64 bits mean what; on the wire only the bits travel.

* `Value.bits`, `Kind.read`: to the wire and back.
* `Value.text`, `Value.json`: written forms.
* `MetaValue`: what can be attached to a list of measurements under a name.
-/

set_option autoImplicit false

namespace PluginKit

/-- The kinds of measurement. -/
inductive Kind where
  | counter
  | gauge
  | derive
  | absolute
  deriving DecidableEq, Repr

/-- One measurement. -/
inductive Value where
  /-- Counts up and wraps around. -/
  | counter (n : UInt64)
  /-- Goes up and down, stored as it is. -/
  | gauge (x : Double)
  /-- Stored as the difference of successive observations. -/
  | derive (n : Int64)
  /-- A counter that starts over when it is read. -/
  | absolute (n : UInt64)
  deriving DecidableEq, Repr

namespace Kind

/-- The daemon's number for a kind. -/
def code : Kind → Int
  | .counter => 0
  | .gauge => 1
  | .derive => 2
  | .absolute => 3

/-- The kind of a number. -/
def ofCode? (code : Int) : Option Kind :=
  match code with
  | 0 => some .counter
  | 1 => some .gauge
  | 2 => some .derive
  | 3 => some .absolute
  | _ => none

/-- What 64 bits mean as a measurement of this kind. -/
def read (k : Kind) (bits : UInt64) : Value :=
  match k with
  | .counter => .counter bits
  | .gauge => .gauge ⟨bits⟩
  | .derive => .derive bits.toInt64
  | .absolute => .absolute bits

end Kind

namespace Value

def kind : Value → Kind
  | .counter _ => .counter
  | .gauge _ => .gauge
  | .derive _ => .derive
  | .absolute _ => .absolute

/-- The 64 bits that travel. -/
def bits : Value → UInt64
  | .counter n => n
  | .gauge x => x.bits
  | .derive n => n.toUInt64
  | .absolute n => n

def isGauge (v : Value) : Bool := v.kind == .gauge

def isNaN : Value → Bool
  | .gauge x => x.isNaN
  | _ => false

/-- Equality of values; as numbers, so a gauge that is NaN differs from itself. -/
def equal : Value → Value → Bool
  | .counter a, .counter b => a == b
  | .gauge a, .gauge b => a.equal b
  | .derive a, .derive b => a == b
  | .absolute a, .absolute b => a == b
  | _, _ => false

/-- Integers in decimal, gauges in the given style. -/
def render (style : Style) : Value → String
  | .counter n => toString n.toNat
  | .gauge x => style.render x
  | .derive n => toString n.toInt
  | .absolute n => toString n.toNat

/-- The plain text of a measurement. -/
def text (v : Value) : String := v.render Style.plain

/-- A measurement as JSON. -/
def json (v : Value) : String := v.render Style.json

end Value

/-- An annotation's value. -/
inductive MetaValue where
  | string (s : String)
  | signed (n : Int64)
  | unsigned (n : UInt64)
  | double (x : Double)
  | boolean (b : Bool)
  deriving DecidableEq, Repr

/-- Equality of annotations; doubles compare as numbers. -/
def MetaValue.equal : MetaValue → MetaValue → Bool
  | .string a, .string b => a == b
  | .signed a, .signed b => a == b
  | .unsigned a, .unsigned b => a == b
  | .double a, .double b => a.equal b
  | .boolean a, .boolean b => a == b
  | _, _ => false

end PluginKit
