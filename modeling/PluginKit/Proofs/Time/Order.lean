import PluginKit.Proofs.Time

/-!
# `PluginKit.Proofs.Time.Order`: longer spans have more ticks, up to a limit

A word holds some 18.4 billion seconds in nanoseconds, and in ticks only 2 ^ 34 of them, which is
17.2 billion. The clamp looks at the word of nanoseconds and not at that of ticks: what lies between
the two limits is neither kept nor clamped, but begins again from zero. On either side of the limit
more nanoseconds never have fewer ticks.

* `exact`, `exact_mono`: ticks without a bound, which keep the order.
* `toNat_ofNanos_eq_exact`, `ofNanos_past`: the ticks of a word on either side of the limit.
* `ofDuration_mono`, `ofDuration_past`: the same for spans of any length.
* `ordered_on_either_side`: how spans and points of time are ordered by their ticks.
* `order_lost_past_span`: one nanosecond more, and all ticks are gone.
-/

set_option autoImplicit false

namespace PluginKit

namespace Ticks

/-- The ticks of nanoseconds, rounded to nearest with halves up, in as many bits as they take. It
takes the number as a whole, where a conversion of words takes seconds and fractions apart. -/
def exact (n : Nat) : Nat := (n * 2 ^ 30 + 500000000) / 1000000000

/-- Rounding keeps the order. It is the shift of the seconds alone that can lose it. -/
theorem exact_mono {m n : Nat} (h : m ≤ n) : exact m ≤ exact n := by
  apply Nat.div_le_div_right
  omega

/-- Whole seconds are apart from the fraction before and after rounding, as a second is a whole
number of ticks. -/
theorem exact_eq (n : Nat) :
    exact n = n / 1000000000 * 2 ^ 30 + (n % 1000000000 * 2 ^ 30 + 500000000) / 1000000000 := by
  unfold exact
  omega

/-! ### Words of nanoseconds -/

/-- Below the span the seconds keep all of their bits, and the ticks of a word are those without a
bound. -/
theorem toNat_ofNanos_eq_exact {n : UInt64} (h : n.toNat < span) :
    (ofNanos n).toNat = exact n.toNat := by
  rw [toNat_ofNanos h, exact_eq]

/-- The nanoseconds past the span, which is 2 ^ 34 whole seconds, are all that is left of a word:
the shift moves the upper bits of the seconds out of the word. -/
theorem ofNanos_past {n rest : UInt64} (h : n.toNat = span + rest.toNat) :
    ofNanos n = ofNanos rest := by
  have hspan : span = 17179869184 * 1000000000 := rfl
  apply UInt64.toNat_inj.mp
  rw [toNat_ofNanos_mod, toNat_ofNanos_mod]
  have hseconds : n.toNat / 1000000000 = 17179869184 + rest.toNat / 1000000000 := by omega
  have hfraction : n.toNat % 1000000000 = rest.toNat % 1000000000 := by omega
  rw [hseconds, hfraction]
  omega

/-! ### Spans of any length -/

/-- The nanoseconds that the clamp leaves of a span. The clamp keeps them to a word, and asks
nothing about ticks. -/
def clamped (d : Duration) : Nat := min d.nanos (UInt64.size - 1)

/-- The clamp of the code is the lesser of the two numbers. -/
theorem toNat_clampNanos_eq (d : Duration) : (clampNanos d).toNat = clamped d := by
  have hsize : UInt64.size = 2 ^ 64 := rfl
  unfold clampNanos clamped
  rw [UInt64.toNat_ofNat_of_lt' (by omega)]

/-- What lies past the span, of a time that the clamp has been applied to. It is itself shorter than
the span, so it says in how many ticks a longer time ends up. -/
def past (d : Duration) : Duration := ⟨clamped d - span⟩

/-- A word holds less than two spans, so the ticks begin again only once. -/
theorem past_lt (d : Duration) : (past d).nanos < span := by
  have hspan : span = 17179869184000000000 := rfl
  have hsize : UInt64.size = 18446744073709551616 := rfl
  show clamped d - span < span
  unfold clamped
  omega

/-- A time below the span is not clamped, and its ticks are those without a bound. -/
theorem toNat_ofDuration {d : Duration} (h : d.nanos < span) :
    (ofDuration d).toNat = exact d.nanos := by
  have hclamp := toNat_clampNanos h
  show (ofNanos (clampNanos d)).toNat = exact d.nanos
  rw [toNat_ofNanos_eq_exact (by omega), hclamp]

/-- Past the span the ticks begin again, as if the span had never been. -/
theorem ofDuration_past {d : Duration} (h : span ≤ d.nanos) :
    ofDuration d = ofDuration (past d) := by
  have hsize : span ≤ UInt64.size - 1 := by decide
  have hsplit : clamped d = span + (past d).nanos := by
    show clamped d = span + (clamped d - span)
    unfold clamped
    omega
  apply ofNanos_past
  rw [toNat_clampNanos_eq, toNat_clampNanos (past_lt d), hsplit]

/-- More nanoseconds have no fewer ticks, if the limit does not lie between. With the limit between
them there is nothing to be said: see `order_lost_past_span`. -/
theorem ofDuration_mono {d₁ d₂ : Duration} (h : d₁.nanos ≤ d₂.nanos)
    (hside : d₂.nanos < span ∨ span ≤ d₁.nanos) : ofDuration d₁ ≤ ofDuration d₂ := by
  rcases hside with hbelow | hpast
  · rw [UInt64.le_iff_toNat_le, toNat_ofDuration (by omega), toNat_ofDuration hbelow]
    exact exact_mono h
  · -- both have begun again, and what is past the span keeps the order
    have hlater : span ≤ d₂.nanos := hpast.trans h
    have hrest : (past d₁).nanos ≤ (past d₂).nanos := by
      show clamped d₁ - span ≤ clamped d₂ - span
      unfold clamped
      omega
    rw [ofDuration_past (d := d₁) hpast, ofDuration_past (d := d₂) hlater, UInt64.le_iff_toNat_le,
      toNat_ofDuration (past_lt d₁), toNat_ofDuration (past_lt d₂)]
    exact exact_mono hrest

/-! ### Points of time -/

/-- The span since the epoch. A point of time before the epoch counts as the epoch. -/
def sinceEpoch (t : Instant) : Duration := ⟨t.nanos.toNat⟩

/-- A point of time has the ticks of the span since the epoch. -/
theorem ofInstant_eq (t : Instant) : ofInstant t = ofDuration (sinceEpoch t) := rfl

/-- Ticks keep the order of spans and of points of time on either side of the limit. Past it they
are those of what lies past it, where the word of nanoseconds is the last thing to clamp; up to the
epoch there are none. -/
theorem ordered_on_either_side (d₁ d₂ : Duration) (t₁ t₂ : Instant) :
    (d₁.nanos ≤ d₂.nanos → d₂.nanos < span ∨ span ≤ d₁.nanos →
      ofDuration d₁ ≤ ofDuration d₂) ∧
    (span ≤ d₁.nanos → ofDuration d₁ = ofDuration ⟨min d₁.nanos (2 ^ 64 - 1) - span⟩) ∧
    (t₁.nanos ≤ t₂.nanos → t₂.nanos < span ∨ span ≤ t₁.nanos → ofInstant t₁ ≤ ofInstant t₂) ∧
    (span ≤ t₁.nanos → ofInstant t₁ = ofDuration ⟨min t₁.nanos.toNat (2 ^ 64 - 1) - span⟩) ∧
    (t₁.nanos ≤ 0 → ofInstant t₁ = 0) := by
  -- An instant is converted as the duration since the epoch, and one before it as none at all.
  refine ⟨ofDuration_mono, ofDuration_past, ?_, ?_, ?_⟩
  · intro h hside
    have hsince : (sinceEpoch t₁).nanos ≤ (sinceEpoch t₂).nanos := Int.toNat_le_toNat h
    apply ofDuration_mono hsince
    show t₂.nanos.toNat < span ∨ span ≤ t₁.nanos.toNat
    have hspan : (0 : Nat) < span := by decide
    omega
  · intro h
    have hsince : span ≤ (sinceEpoch t₁).nanos := by
      show span ≤ t₁.nanos.toNat
      omega
    exact ofDuration_past hsince
  · intro h
    have hsince : sinceEpoch t₁ = ⟨0⟩ := congrArg Duration.mk (Int.toNat_of_nonpos h)
    rw [ofInstant_eq, hsince]
    rfl

/-- Two spans of 15 and 16 billion seconds, and two points of time past the limit. -/
theorem ordered_on_either_side_far :
    ofDuration ⟨15000000000000000000⟩ ≤ ofDuration ⟨16000000000000000000⟩ ∧
      ofInstant ⟨17179869185000000000⟩ ≤ ofInstant ⟨30000000000000000000⟩ ∧
      ofInstant ⟨17179869185000000000⟩ = ofDuration ⟨1000000000⟩ := by
  obtain ⟨hspans, -, hpoints, hpast, -⟩ :=
    ordered_on_either_side ⟨15000000000000000000⟩ ⟨16000000000000000000⟩ ⟨17179869185000000000⟩
      ⟨30000000000000000000⟩
  refine ⟨hspans (by decide) (.inl (by decide)), hpoints (by decide) (.inr (by decide)), ?_⟩
  rw [hpast (by decide)]
  rfl

/-- The last nanosecond within the span has the most ticks there are, and the next one has none,
though the word of nanoseconds holds it: a longer span, and a later point of time, become zero. -/
theorem order_lost_past_span :
    ofDuration (.ofSeconds 17179869183 999999999) = 0xFFFFFFFFFFFFFFFF ∧
      ofDuration (.ofSeconds 17179869184 0) = 0 ∧
      ¬ ofDuration (.ofSeconds 17179869183 999999999) ≤ ofDuration (.ofSeconds 17179869184 0) ∧
      ¬ ofInstant ⟨17179869183999999999⟩ ≤ ofInstant ⟨17179869184000000000⟩ := by
  decide

end Ticks

end PluginKit
