import Mathlib.Algebra.Order.Field.Basic
import Mathlib.Algebra.Order.Field.Rat
import Mathlib.Tactic.Linarith
import Mathlib.Tactic.Positivity
import PluginKit.Number.Double

/-!
# `PluginKit.Proofs.Number.Double`: what the bits of a double are worth

A finite double is worth a fraction, its magnitude `m * 2 ^ q` with a sign. Reading an integer off
the bits shifts the magnitude and looks at what falls off the end; that is the integer exactly when
the fraction is one.

* `Magnitude.value`, `value?`: the worth of a double.
* `Magnitude.toNat?_eq_some_iff`, `toInt?_eq_some_iff`: the integer that a double is.
* `one_le_abs_sub_of_odd`: a double holds 53 bits, so past them no odd number has one nearby.
-/

set_option autoImplicit false

namespace PluginKit

namespace Double

/-- The exact magnitude of a finite double. -/
def Magnitude.value (v : Magnitude) : ℚ := v.m * 2 ^ v.q

/-- The exact value of a double. NaN and the infinities have none, and both zeros have the same. -/
def value? (x : Double) : Option ℚ :=
  x.finite?.map fun v => if x.negative then -v.value else v.value

/-! ### Integers -/

/-- A magnitude is never negative. The sign is a bit of its own. -/
theorem Magnitude.value_nonneg (v : Magnitude) : 0 ≤ v.value := by
  unfold value
  exact mul_nonneg (Nat.cast_nonneg _) (zpow_nonneg two_pos.le _)

/-- The shifts give the integer that the magnitude is, and nothing when it is none. To the left they
lose nothing; to the right they must lose nothing but zeros. -/
theorem Magnitude.toNat?_eq_some_iff (v : Magnitude) (n : Nat) :
    v.toNat? = some n ↔ v.value = n := by
  obtain ⟨m, q, narrow⟩ := v
  show (if 0 ≤ q then some (m <<< q.toNat)
    else if m % (1 <<< (-q).toNat) = 0 then some (m >>> (-q).toNat) else none) = some n
    ↔ (m : ℚ) * 2 ^ q = n
  rcases le_or_gt 0 q with hq | hq
  · obtain ⟨k, rfl⟩ := Int.eq_ofNat_of_zero_le hq
    rw [if_pos hq, Int.toNat_natCast, Nat.shiftLeft_eq, zpow_natCast, Option.some_inj]
    exact_mod_cast Iff.rfl
  · obtain ⟨k, hk⟩ := Int.eq_ofNat_of_zero_le (Int.neg_nonneg_of_nonpos hq.le)
    obtain rfl : q = -(k : ℤ) := by omega
    rw [if_neg (by omega), neg_neg, Int.toNat_natCast, Nat.one_shiftLeft,
      Nat.shiftRight_eq_div_pow, zpow_neg, zpow_natCast, mul_inv_eq_iff_eq_mul₀ (by positivity)]
    have hpow : 0 < 2 ^ k := Nat.two_pow_pos k
    -- the fraction is an integer when the power divides `m`, and that is what is looked at
    have hcast : (m : ℚ) = n * 2 ^ k ↔ m = n * 2 ^ k := by exact_mod_cast Iff.rfl
    rw [hcast]
    split
    · rename_i hdvd
      rw [Option.some_inj, Nat.div_eq_iff_eq_mul_left hpow (Nat.dvd_of_mod_eq_zero hdvd)]
    · rename_i hdvd
      constructor
      · nofun
      · rintro rfl
        exact absurd (Nat.mul_mod_left n (2 ^ k)) hdvd

/-- A magnitude is never negative, so the integer that it is has been found by the shifts. -/
theorem Magnitude.value_eq_intCast_iff (v : Magnitude) (i : ℤ) :
    v.value = i ↔ ∃ n : ℕ, v.toNat? = some n ∧ (n : ℤ) = i := by
  simp only [v.toNat?_eq_some_iff]
  constructor
  · intro h
    have hi : 0 ≤ i := by
      have hvalue := v.value_nonneg
      rw [h] at hvalue
      exact_mod_cast hvalue
    obtain ⟨n, rfl⟩ := Int.eq_ofNat_of_zero_le hi
    exact ⟨n, by rw [h, Int.cast_natCast], rfl⟩
  · rintro ⟨n, hn, rfl⟩
    rw [hn, Int.cast_natCast]

/-- A double is an integer exactly when its value is that integer. Proofs about numbers of the
configuration go by this and never look at bits. -/
theorem toInt?_eq_some_iff (x : Double) (i : ℤ) : x.toInt? = some i ↔ x.value? = some (i : ℚ) := by
  have hread : x.toInt? = x.finite?.bind fun v =>
      v.toNat?.map fun n : ℕ => if x.negative then -(n : ℤ) else (n : ℤ) := by
    unfold toInt?
    cases x.finite? with
    | none => rfl
    | some v => cases hn : v.toNat? <;> simp [hn]
  unfold value?
  rw [hread]
  cases x.finite? with
  | none => simp
  | some v =>
      rw [Option.bind_some, Option.map_some, Option.some_inj, Option.map_eq_some_iff]
      -- The sign is kept apart from the magnitude, which is a natural number or none.
      cases x.negative with
      | false => exact (v.value_eq_intCast_iff i).symm
      | true =>
          have hopposite : -v.value = i ↔ v.value = ((-i : ℤ) : ℚ) := by
            rw [neg_eq_iff_eq_neg, Int.cast_neg]
          show (∃ n : ℕ, v.toNat? = some n ∧ -(n : ℤ) = i) ↔ -v.value = i
          rw [hopposite, v.value_eq_intCast_iff]
          simp only [neg_eq_iff_eq_neg]

/-! ### Gaps between doubles -/

/-- A double holds 53 bits, of which the first is not written down. -/
theorem magnitude_m_lt (x : Double) : x.magnitude.m < 2 ^ 53 := by
  have hfraction : x.fractionBits < 2 ^ 52 := Nat.mod_lt _ (Nat.two_pow_pos 52)
  unfold magnitude
  split
  · show x.fractionBits < 2 ^ 53
    omega
  · show 0x10000000000000 + x.fractionBits < 2 ^ 53
    omega

/-- Past 53 bits the last bit of a double is lost: an odd number has no double within one of it. -/
theorem one_le_abs_sub_of_odd {x : Double} {v : ℚ} (hx : x.value? = some v) {n : ℕ}
    (hodd : n % 2 = 1) (hlarge : 2 ^ 53 < n) : 1 ≤ |v - n| := by
  obtain ⟨w, hw, hv⟩ := Option.map_eq_some_iff.mp hx
  have hm : w.m < 2 ^ 53 := by
    unfold finite? at hw
    split at hw
    · obtain rfl := Option.some.inj hw
      exact x.magnitude_m_lt
    · cases hw
  have hn : (2 ^ 53 : ℚ) + 1 ≤ n := by exact_mod_cast hlarge
  have hnonneg := w.value_nonneg
  split at hv
  · -- a number below zero is farther away still
    rw [← hv, abs_sub_comm, le_abs]
    left
    linarith
  · subst hv
    rcases le_or_gt w.q 0 with hq | hq
    · have hsmall : w.value ≤ 2 ^ 53 := by
        have hpow : (2 : ℚ) ^ w.q ≤ 1 := zpow_le_one_of_nonpos₀ one_le_two hq
        calc w.value = w.m * 2 ^ w.q := rfl
          _ ≤ w.m * 1 := by gcongr
          _ ≤ 2 ^ 53 := by
            rw [mul_one]
            exact_mod_cast hm.le
      rw [abs_sub_comm, le_abs]
      left
      linarith
    · -- a whole number of twos, which the odd number is not
      obtain ⟨k, hk⟩ := Int.eq_ofNat_of_zero_le (show 0 ≤ w.q - 1 by omega)
      have heven : w.value = ((2 * (w.m * 2 ^ k) : ℤ) : ℚ) := by
        have hpow : w.q = (k + 1 : ℕ) := by omega
        unfold Magnitude.value
        rw [hpow, zpow_natCast, pow_succ, ← mul_assoc, mul_comm]
        norm_cast
      rw [heven]
      have hne : (2 * (w.m * 2 ^ k) : ℤ) - n ≠ 0 := by omega
      exact_mod_cast Int.one_le_abs hne

end Double

end PluginKit
