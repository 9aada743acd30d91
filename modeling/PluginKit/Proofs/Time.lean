import Mathlib.Algebra.Order.Ring.Int
import PluginKit.Time

/-!
# `PluginKit.Proofs.Time`: the two clocks agree

The machine words of both conversions are the rounded quotients of unbounded arithmetic: the fields
that the bit operations join never overlap, and no sum or product leaves its word. A tick is
shorter than a nanosecond, so nanoseconds survive the way to ticks and back.

* `toNat_ofNanos_mod`, `toNat_ofNanos`, `toNat_toNanos`: the conversions in unbounded arithmetic.
* `toNanos_ofNanos`: nanoseconds to ticks and back.
* `toInstant_ofInstant`, `toDuration_ofDuration`: the same for points and spans of time.
* `toNanos_div`: the whole seconds of ticks.
* `rounded`, `rounded_near`, `rounded_rounded`: ticks to nanoseconds and back, which loses less than
  a tick, and that only once.
-/

set_option autoImplicit false

namespace PluginKit

namespace Ticks

/-- The nanoseconds that fit the 34 bits of seconds. Past them the daemon's clock starts again at
zero, so most statements about it are made on one side of the span. -/
def span : Nat := 2 ^ 34 * 1000000000

/-- Seconds in the upper bits, the rounded fraction in the lower 30: the sum of both, since the
fraction never reaches a second. Seconds past 34 bits are lost. -/
theorem toNat_ofNanos_mod (n : UInt64) :
    (ofNanos n).toNat = n.toNat / 1000000000 % 2 ^ 34 * 2 ^ 30
      + (n.toNat % 1000000000 * 2 ^ 30 + 500000000) / 1000000000 := by
  have hseconds : ((n / 1000000000) <<< 30).toNat = (n.toNat / 1000000000 % 2 ^ 34) <<< 30 := by
    rw [UInt64.toNat_shiftLeft, UInt64.toNat_div]
    show (n.toNat / 1000000000) <<< 30 % 2 ^ 64 = _
    rw [Nat.shiftLeft_eq, Nat.shiftLeft_eq]
    omega
  have hfraction : ((((n % 1000000000) <<< 30) + 500000000) / 1000000000).toNat
      = (n.toNat % 1000000000 * 2 ^ 30 + 500000000) / 1000000000 := by
    rw [UInt64.toNat_div, UInt64.toNat_add, UInt64.toNat_shiftLeft, UInt64.toNat_mod]
    show ((n.toNat % 1000000000) <<< 30 % 2 ^ 64 + 500000000) % 2 ^ 64 / 1000000000 = _
    rw [Nat.shiftLeft_eq]
    omega
  unfold ofNanos
  -- the fraction stays below the seconds' lowest bit, so joining the bits is adding
  rw [UInt64.toNat_or, hseconds, hfraction, ← Nat.shiftLeft_add_eq_or_of_lt (by omega),
    Nat.shiftLeft_eq]

/-- Within the span no second is lost, and ticks are the sum of whole seconds and a fraction rounded
to nearest. -/
theorem toNat_ofNanos {n : UInt64} (h : n.toNat < span) :
    (ofNanos n).toNat = n.toNat / 1000000000 * 2 ^ 30
      + (n.toNat % 1000000000 * 2 ^ 30 + 500000000) / 1000000000 := by
  have hspan : span = 17179869184000000000 := rfl
  rw [toNat_ofNanos_mod, Nat.mod_eq_of_lt (by omega : n.toNat / 1000000000 < 2 ^ 34)]

/-- Nanoseconds of ticks in unbounded arithmetic: no ticks are so many that their nanoseconds would
not fit a word. -/
theorem toNat_toNanos (t : Ticks) :
    (toNanos t).toNat = t.toNat / 2 ^ 30 * 1000000000
      + (t.toNat % 2 ^ 30 * 1000000000 + 2 ^ 29) / 2 ^ 30 := by
  have hseconds : (t >>> 30).toNat = t.toNat / 2 ^ 30 := by
    rw [UInt64.toNat_shiftRight]
    exact Nat.shiftRight_eq_div_pow _ _
  have hfraction : (t &&& 0x3FFFFFFF).toNat = t.toNat % 2 ^ 30 := by
    rw [UInt64.toNat_and]
    exact Nat.and_two_pow_sub_one_eq_mod _ 30
  have hs : t.toNat / 2 ^ 30 < 2 ^ 34 := by
    have hlt : t.toNat < 2 ^ 64 := t.toNat_lt
    omega
  have hf : t.toNat % 2 ^ 30 < 2 ^ 30 := Nat.mod_lt _ (Nat.two_pow_pos 30)
  unfold toNanos
  dsimp only
  rw [UInt64.toNat_add, UInt64.toNat_mul, hseconds, UInt64.toNat_shiftRight,
    UInt64.toNat_add, UInt64.toNat_mul, hfraction]
  generalize t.toNat / 2 ^ 30 = s at hs
  generalize t.toNat % 2 ^ 30 = f at hf
  -- 34 and 30 bits times a billion fit a word, so nothing wraps around
  show (s * 1000000000 % 2 ^ 64
    + ((f * 1000000000 % 2 ^ 64 + 2 ^ 29) % 2 ^ 64) >>> 30) % 2 ^ 64 = _
  rw [Nat.shiftRight_eq_div_pow, Nat.mod_eq_of_lt (by omega : s * 1000000000 < 2 ^ 64),
    Nat.mod_eq_of_lt (by omega : f * 1000000000 < 2 ^ 64),
    Nat.mod_eq_of_lt (by omega : f * 1000000000 + 2 ^ 29 < 2 ^ 64)]
  exact Nat.mod_eq_of_lt (by omega)

/-- The fraction of ticks, in nanoseconds, is less than a second, so it does not carry into the
seconds when it is rounded. -/
theorem fraction_lt (t : Ticks) :
    (t.toNat % 2 ^ 30 * 1000000000 + 2 ^ 29) / 2 ^ 30 < 1000000000 := by
  omega

/-- The whole seconds of ticks are their upper 34 bits. -/
theorem toNanos_div (t : Ticks) : (toNanos t).toNat / 1000000000 = (t >>> 30).toNat := by
  have hfraction := fraction_lt t
  rw [toNat_toNanos, UInt64.toNat_shiftRight]
  show _ = t.toNat >>> 30
  rw [Nat.shiftRight_eq_div_pow]
  omega

/-- Nanoseconds survive: the error of rounding to ticks is less than half a nanosecond, so rounding
back finds the one that was there. -/
theorem toNanos_ofNanos {n : UInt64} (h : n.toNat < span) : toNanos (ofNanos n) = n := by
  have hspan : span = 17179869184000000000 := rfl
  apply UInt64.toNat_inj.mp
  rw [toNat_toNanos, toNat_ofNanos h]
  omega

/-! ### Points and spans of time -/

/-- Spans of time within the span of the clock are far from the bound at which nanoseconds
saturate. -/
theorem toNat_clampNanos {d : Duration} (h : d.nanos < span) :
    (clampNanos d).toNat = d.nanos := by
  have hspan : span = 17179869184000000000 := rfl
  have hsize : UInt64.size = 18446744073709551616 := rfl
  unfold clampNanos
  rw [Nat.min_eq_left (by omega), UInt64.toNat_ofNat_of_lt' (by show _ < 2 ^ 64; omega)]

/-- A span of time that fits the clock comes back from ticks. -/
theorem toDuration_ofDuration {d : Duration} (h : d.nanos < span) :
    toDuration (ofDuration d) = d := by
  have hclamp := toNat_clampNanos h
  unfold toDuration ofDuration
  rw [toNanos_ofNanos (by rw [hclamp]; exact h), hclamp]

/-- So does a point in time from the epoch on. An earlier one has no ticks and would come back as
the epoch. -/
theorem toInstant_ofInstant {t : Instant} (hepoch : 0 ≤ t.nanos) (h : t.nanos < span) :
    toInstant (ofInstant t) = t := by
  have hlt : t.nanos.toNat < span := by omega
  have hclamp := toNat_clampNanos (d := ⟨t.nanos.toNat⟩) hlt
  unfold toInstant ofInstant clampInstant
  rw [toNanos_ofNanos (by rw [hclamp]; exact hlt), hclamp]
  show (⟨(t.nanos.toNat : Int)⟩ : Instant) = t
  rw [Int.toNat_of_nonneg hepoch]

/-! ### Ticks to nanoseconds and back -/

/-- The ticks that come back when ticks are read as nanoseconds and written again. This is what a
relay does to the times of a list. -/
def rounded (t : Ticks) : Ticks := ofNanos (toNanos t)

/-- At most one tick apart. -/
def Near (a b : Ticks) : Prop := a.toNat ≤ b.toNat + 1 ∧ b.toNat ≤ a.toNat + 1

instance (a b : Ticks) : Decidable (Near a b) := by
  unfold Near
  infer_instance

theorem toNanos_lt (t : Ticks) : (toNanos t).toNat < span := by
  have hspan : span = 17179869184000000000 := rfl
  have hfraction := fraction_lt t
  have hword : t.toNat < 2 ^ 64 := t.toNat_lt
  rw [toNat_toNanos]
  omega

/-- A nanosecond is longer than a tick, and both directions round to nearest. So ticks may move to
the nearest that a nanosecond has, and no further. -/
theorem rounded_near (t : Ticks) : Near (rounded t) t := by
  have hfraction := fraction_lt t
  unfold Near rounded
  rw [toNat_ofNanos (toNanos_lt t), toNat_toNanos]
  constructor <;> omega

/-- The nanoseconds are not touched by the rounding of ticks, so a second relay sees the same
time. -/
theorem toNanos_rounded (t : Ticks) : toNanos (rounded t) = toNanos t :=
  toNanos_ofNanos (toNanos_lt t)

/-- Rounding a second time changes nothing more. -/
theorem rounded_rounded (t : Ticks) : rounded (rounded t) = rounded t := by
  unfold rounded
  rw [toNanos_ofNanos (toNanos_lt t)]

/-- Nanoseconds that fit a word are not cut off. -/
theorem clampNanos_toNat (n : UInt64) : clampNanos ⟨n.toNat⟩ = n := by
  have hsize : UInt64.size = 18446744073709551616 := rfl
  have hword : n.toNat < 2 ^ 64 := n.toNat_lt
  unfold clampNanos
  dsimp only
  rw [Nat.min_eq_left (by omega), UInt64.ofNat_toNat]

/-- Ticks by way of a duration are rounded. A point in time takes the same way. -/
theorem ofDuration_toDuration (t : Ticks) : ofDuration (toDuration t) = rounded t := by
  unfold ofDuration toDuration
  rw [clampNanos_toNat]
  rfl

theorem ofInstant_toInstant (t : Ticks) : ofInstant (toInstant t) = rounded t := by
  unfold ofInstant clampInstant toInstant
  rw [Int.toNat_natCast, clampNanos_toNat]
  rfl

end Ticks

end PluginKit
