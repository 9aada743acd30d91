/-!
# `PluginKit.Time`: the daemon's clock

The daemon counts time in units of `2 ^ -30` seconds: the upper 34 bits of a 64-bit word are whole
seconds, the lower 30 bits the fraction. A plugin counts in nanoseconds.

* `Ticks.ofNanos`, `Ticks.toNanos`: the two directions, rounding to nearest with halves up.
* `Ticks.ofDuration`, `Ticks.ofInstant`: from spans and points of time; what does not fit is
  clamped.
-/

set_option autoImplicit false

namespace PluginKit

/-- A span of time in nanoseconds. -/
structure Duration where
  nanos : Nat
  deriving DecidableEq, Repr, Inhabited

/-- A point of time in nanoseconds since the epoch. -/
structure Instant where
  nanos : Int
  deriving DecidableEq, Repr, Inhabited

namespace Duration

def ofSeconds (seconds nanos : Nat) : Duration := ⟨seconds * 1000000000 + nanos⟩

/-- The whole seconds. -/
def seconds (d : Duration) : Nat := d.nanos / 1000000000

/-- The nanoseconds past the whole seconds. -/
def subsecond (d : Duration) : Nat := d.nanos % 1000000000

end Duration

/-- A time of the daemon, in units of `2 ^ -30` seconds. -/
abbrev Ticks := UInt64

namespace Ticks

/-- Nanoseconds as ticks. Seconds past 34 bits are lost. -/
def ofNanos (nanos : UInt64) : Ticks :=
  ((nanos / 1000000000) <<< 30) |||
    ((((nanos % 1000000000) <<< 30) + 500000000) / 1000000000)

/-- Ticks as nanoseconds. -/
def toNanos (ticks : Ticks) : UInt64 :=
  let seconds : UInt64 := ticks >>> 30
  let fraction : UInt64 := ticks &&& 0x3FFFFFFF
  seconds * (1000000000 : UInt64) + ((fraction * (1000000000 : UInt64) + 0x20000000) >>> 30)

/-- The nanoseconds of a span in one word, the largest word when there are more. -/
def clampNanos (d : Duration) : UInt64 := UInt64.ofNat (min d.nanos (UInt64.size - 1))

def ofDuration (d : Duration) : Ticks := ofNanos (clampNanos d)

/-- The nanoseconds since the epoch in one word; times before the epoch become the epoch. -/
def clampInstant (t : Instant) : UInt64 := clampNanos ⟨t.nanos.toNat⟩

def ofInstant (t : Instant) : Ticks := ofNanos (clampInstant t)

def toDuration (ticks : Ticks) : Duration := ⟨(toNanos ticks).toNat⟩

def toInstant (ticks : Ticks) : Instant := ⟨(toNanos ticks).toNat⟩

end Ticks

end PluginKit
