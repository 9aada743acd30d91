import PluginKit.Proofs.Session.Report
import PluginKit.Proofs.Time.Order

/-!
# `PluginKit.Proofs.Time.RoundTrip`: the two clocks show the same time

A nanosecond is a little longer than a tick. So nanoseconds come back from ticks as they were, while
ticks come back to within one, and stay there. On both ways no fraction is rounded up to the next
second, and nothing but zero becomes zero, since either unit is more than half of the other.

* `ofNanos_shiftRight`, `toNanos_div_word`: whole seconds, on both ways.
* `ofNanos_eq_zero_iff`, `toNanos_eq_zero_iff`: zero, on both ways.
* `flushTimeout_of_ne_zero`: what a plugin gets to see of a timeout.
* `clocks_agree`: all of it, with the way back and with what a plugin is asked to flush.
-/

set_option autoImplicit false

namespace PluginKit

namespace Ticks

/-! ### Whole seconds -/

/-- The seconds of ticks are their upper 34 bits, as a number. -/
theorem toNat_shiftRight (t : Ticks) : (t >>> 30).toNat = t.toNat / 2 ^ 30 := by
  rw [UInt64.toNat_shiftRight]
  exact Nat.shiftRight_eq_div_pow _ 30

/-- The upper 34 bits of ticks are the whole seconds of the nanoseconds. Rounding never carries into
them: the last nanosecond of a second is more than half a tick away from the next. -/
theorem ofNanos_shiftRight {n : UInt64} (h : n.toNat < span) :
    ofNanos n >>> 30 = n / 1000000000 := by
  apply UInt64.toNat_inj.mp
  rw [toNat_shiftRight, toNat_ofNanos h, UInt64.toNat_div]
  show _ = n.toNat / 1000000000
  omega

/-- The whole seconds of the nanoseconds are the upper 34 bits of the ticks, for all words, as every
number of ticks fits when it is read. -/
theorem toNanos_div_word (t : Ticks) : toNanos t / (1000000000 : UInt64) = t >>> 30 := by
  apply UInt64.toNat_inj.mp
  rw [UInt64.toNat_div]
  exact toNanos_div t

/-! ### Zero -/

/-- A nanosecond is more than half a tick, so it is not rounded away. -/
theorem ofNanos_eq_zero_iff {n : UInt64} (h : n.toNat < span) : ofNanos n = 0 ↔ n = 0 := by
  rw [← UInt64.toNat_inj, ← UInt64.toNat_inj, toNat_ofNanos_eq_exact h]
  show (n.toNat * 2 ^ 30 + 500000000) / 1000000000 = 0 ↔ n.toNat = 0
  omega

/-- A tick is more than half a nanosecond, so it is not rounded away. -/
theorem toNanos_eq_zero_iff (t : Ticks) : toNanos t = 0 ↔ t = 0 := by
  rw [← UInt64.toNat_inj, ← UInt64.toNat_inj, toNat_toNanos]
  show t.toNat / 2 ^ 30 * 1000000000 + (t.toNat % 2 ^ 30 * 1000000000 + 2 ^ 29) / 2 ^ 30 = 0
    ↔ t.toNat = 0
  omega

/-! ### Timeouts -/

/-- A timeout is shown in nanoseconds, at least one of them. The zero of the daemon stands for no
timeout, so one that is there must not turn into it. -/
theorem flushTimeout_of_ne_zero {timeout : Ticks} (h : timeout ≠ 0) :
    Session.flushTimeout timeout = some (toDuration timeout) ∧ 0 < (toDuration timeout).nanos := by
  refine ⟨if_neg h, ?_⟩
  show 0 < (toNanos timeout).toNat
  have hne : (toNanos timeout).toNat ≠ (0 : UInt64).toNat := by
    intro heq
    exact h ((toNanos_eq_zero_iff timeout).mp (UInt64.toNat_inj.mp heq))
  exact Nat.pos_of_ne_zero hne

variable {abi : Abi} {σ : Type}

open Session (Answers Course FlushCourse)

/-- A flush with a timeout reaches no method but the plugin's, with the timeout's nanoseconds.
Whether there is an identifier, and whether it can be read, makes no difference to that. -/
theorem flushCourse_of_ne_zero {s : Session abi σ} {data : Option PluginId} {timeout : Ticks}
    {identifier : Option (List UInt8)} {method : Code abi σ Unit} (h : timeout ≠ 0)
    (hcourse : FlushCourse s data timeout identifier (.called method)) :
    ∃ p id, s.pluginOf data = some p ∧ method = p.flush (some (toDuration timeout)) id := by
  have htimeout := (flushTimeout_of_ne_zero h).1
  cases hcourse with
  | @unnamed p plugin hidentifier => exact ⟨p, none, plugin, by rw [htimeout]⟩
  | @named p bytes id plugin hidentifier decoded =>
      exact ⟨p, nonEmptyText id, plugin, by rw [htimeout]⟩

/-- Nanoseconds that fit the 34 bits of seconds survive the way to ticks and back. Ticks survive the
way to nanoseconds and back up to one tick, and a second time exactly. Both ways keep the whole
seconds and make zero of zero alone; so a plugin that is called to flush with a timeout is given one
that is not zero. -/
theorem clocks_agree (s : Session abi σ) :
    (∀ n : UInt64, n.toNat < span →
      toNanos (ofNanos n) = n ∧ ofNanos n >>> 30 = n / 1000000000 ∧ (ofNanos n = 0 ↔ n = 0)) ∧
    (∀ t : Ticks, Near (ofNanos (toNanos t)) t ∧
      ofNanos (toNanos (ofNanos (toNanos t))) = ofNanos (toNanos t) ∧
      toNanos t / (1000000000 : UInt64) = t >>> 30 ∧ (toNanos t = 0 ↔ t = 0)) ∧
    ∀ data timeout identifier, timeout ≠ 0 →
      Answers "flush" s (FlushCourse s data timeout identifier)
        (s.flush data timeout identifier) ∧
      ∀ method, FlushCourse s data timeout identifier (.called method) →
        ∃ p d id, s.pluginOf data = some p ∧ method = p.flush (some d) id ∧ 0 < d.nanos := by
  refine ⟨fun n h => ⟨toNanos_ofNanos h, ofNanos_shiftRight h, ofNanos_eq_zero_iff h⟩,
    fun t => ⟨rounded_near t, rounded_rounded t, toNanos_div_word t, toNanos_eq_zero_iff t⟩, ?_⟩
  intro data timeout identifier h
  refine ⟨Session.flush_answers data timeout identifier s, fun method hcourse => ?_⟩
  obtain ⟨p, id, hp, hmethod⟩ := flushCourse_of_ne_zero h hcourse
  exact ⟨p, toDuration timeout, id, hp, hmethod, (flushTimeout_of_ne_zero h).2⟩

/-- A session with one plugin that can only flush. -/
def flusher : Session .current Scripted.Journal :=
  { Session.start .empty with
    plugins := [Scripted.PluginScript.plugin
      (.acting ⟨false, false, false, true⟩ .succeed .succeed .succeed .succeed)] }

/-- The last nanosecond of the span, the last tick of a second, and a plugin that is called to flush
what is older than one tick. -/
theorem clocks_agree_at_edges :
    toNanos (ofNanos 17179869183999999999) = 17179869183999999999 ∧
      Near (ofNanos (toNanos 0x3FFFFFFF)) 0x3FFFFFFF ∧
      ∃ p d, flusher.pluginOf (some 0) = some p ∧ 0 < Duration.nanos d ∧
        (flusher.flush (some 0) 1 none).1 = .status 0 ∧
        (flusher.flush (some 0) 1 none).2.world.own.calls = [.flush (some d) none] := by
  obtain ⟨hnanos, hticks, hflush⟩ := clocks_agree flusher
  obtain ⟨-, hcalled⟩ := hflush (some 0) 1 none (by decide)
  obtain ⟨p, -, -, hp, -, -⟩ := hcalled _ (.unnamed rfl rfl)
  exact ⟨(hnanos _ (by decide)).1, (hticks _).1, p, ⟨1⟩, hp, by decide, rfl, rfl⟩

end Ticks

end PluginKit
