import PluginKit.Number.Double

/-!
# `PluginKit.Number.Shortest`: the fewest digits that read back

A double stands for the interval of reals that round to it. Its shortest decimal is the one with the
fewest digits in that interval, and of those the nearest to the double itself. The search tries one
digit, then two, and so on; on each grid only the two neighbours of the exact value can lie in the
interval and be nearest.

* `Magnitude.readsBack`: membership in the interval, by exact arithmetic.
* `Magnitude.shortest`: the decimal that is found.
-/

set_option autoImplicit false

namespace PluginKit

/-- The number `digits * 10 ^ exponent`. -/
structure Decimal where
  digits : Nat
  exponent : Int
  deriving DecidableEq, Repr

/-- Which of two equally near decimals of one length is taken. -/
inductive Tie where
  | toEven
  | away
  deriving DecidableEq, Repr

namespace Decimal

/-- A power of ten. -/
def tens (n : Nat) : Nat := Nat.pow 10 n

/-- Compares `a * 10 ^ i` with `b * 2 ^ j`, exactly. -/
def compareScaled (a : Nat) (i : Int) (b : Nat) (j : Int) : Ordering :=
  compare ((a * tens i.toNat) <<< (-j).toNat) ((b * tens (-i).toNat) <<< j.toNat)

/-- How many digits a number has, at least one. -/
def digitCount (n : Nat) : Nat := (Nat.toDigits 10 n).length

/-- Moves `zeros` trailing zeros, or as many as there are, from the digits into the exponent. -/
def stripZeros : Nat → Decimal → Decimal
  | 0, d => d
  | n + 1, d =>
    if d.digits ≠ 0 ∧ d.digits % 10 = 0 then stripZeros n ⟨d.digits / 10, d.exponent + 1⟩ else d

end Decimal

namespace Double.Magnitude

open Decimal

/-- Whether a decimal lies among the reals that round to this magnitude. The ends of the interval
belong to it exactly when the significand is even. -/
def readsBack (v : Magnitude) (d : Decimal) : Bool :=
  let below := if v.narrowBelow then 4 * v.m - 1 else 4 * v.m - 2
  let above := 4 * v.m + 2
  let closed := v.m % 2 == 0
  let low := compareScaled d.digits d.exponent below (v.q - 2)
  let high := compareScaled d.digits d.exponent above (v.q - 2)
  (low == .gt || (closed && low == .eq)) && (high == .lt || (closed && high == .eq))

/-- The magnitude as a fraction of naturals. -/
def fraction (v : Magnitude) : Nat × Nat := (v.m <<< v.q.toNat, 1 <<< (-v.q).toNat)

/-- The least `k` with the magnitude below `10 ^ k`, for a magnitude that is not zero. -/
def scale (v : Magnitude) : Int :=
  let (num, den) := v.fraction
  if den ≤ num then digitCount (num / den)
  else
    let j := digitCount (den / num) - 1
    if num * tens j = den then 1 - (j : Int) else -(j : Int)

/-- The grid point of unit `10 ^ e` at or below the magnitude. -/
def floorAt (v : Magnitude) (e : Int) : Nat :=
  let (num, den) := v.fraction
  num * tens (-e).toNat / (den * tens e.toNat)

/-- Whether the magnitude lies below, at or above the middle between `n * 10 ^ e` and the next grid
point. -/
def compareMiddle (v : Magnitude) (n : Nat) (e : Int) : Ordering :=
  (compareScaled (2 * n + 1) e (2 * v.m) v.q).swap

/-- The nearer of the two neighbours on the grid of unit `10 ^ e` that read back, if one does. -/
def onGrid (tie : Tie) (v : Magnitude) (e : Int) : Option Decimal :=
  let n := v.floorAt e
  let lower : Decimal := ⟨n, e⟩
  let upper : Decimal := ⟨n + 1, e⟩
  match v.readsBack lower && n != 0, v.readsBack upper with
  | true, true =>
    match v.compareMiddle n e with
    | .lt => some lower
    | .gt => some upper
    | .eq => some (if tie = .away ∨ n % 2 = 1 then upper else lower)
  | true, false => some lower
  | false, true => some upper
  | false, false => none

/-- The shortest decimal of a magnitude that is not zero. Seventeen digits always suffice; the exact
value stands behind them so that the function needs no proof of that. -/
def shortest (tie : Tie) (v : Magnitude) : Decimal :=
  let k := v.scale
  match (List.range 17).findSome? fun (n : Nat) => v.onGrid tie (k - 1 - n) with
  | some d => d.stripZeros 17
  | none => ⟨v.floorAt (min 0 v.q), min 0 v.q⟩

end Double.Magnitude

end PluginKit
