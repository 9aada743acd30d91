/-!
# `PluginKit.Number.Double`: doubles by their bits

A measurement is handed on bit for bit, so a double is kept as its 64 bits. What a computation needs
of it is read off the bits: whether it is a number, its sign, and its exact value `m * 2 ^ q`.

* `Double.finite?`: the exact value of a finite double.
* `Double.toInt?`: the integer that a double is, if it is one.
* `Double.equal`: equality of values, in which a NaN differs from itself and both zeros agree.
-/

set_option autoImplicit false

namespace PluginKit

/-- A binary64 number, kept as its bits. -/
structure Double where
  bits : UInt64
  deriving DecidableEq, Repr, Inhabited

namespace Double

/-- Whether the sign bit is set. -/
def negative (x : Double) : Bool := x.bits.toNat ≥ 0x8000000000000000

/-- The biased exponent, 11 bits wide. -/
def exponentBits (x : Double) : Nat := x.bits.toNat / 0x10000000000000 % 0x800

/-- The stored part of the significand, 52 bits wide. -/
def fractionBits (x : Double) : Nat := x.bits.toNat % 0x10000000000000

def isFinite (x : Double) : Bool := x.exponentBits != 2047

def isNaN (x : Double) : Bool := x.exponentBits == 2047 && x.fractionBits != 0

def isZero (x : Double) : Bool := x.exponentBits == 0 && x.fractionBits == 0

/-- The magnitude of a finite double is `m * 2 ^ q`. The gap to the value below is half the gap to
the value above exactly at a power of two that has normal neighbours on both sides. -/
structure Magnitude where
  m : Nat
  q : Int
  narrowBelow : Bool
  deriving DecidableEq, Repr

/-- The magnitude that the exponent and fraction bits of a finite double stand for. -/
def magnitude (x : Double) : Magnitude :=
  if x.exponentBits = 0 then ⟨x.fractionBits, -1074, false⟩
  else ⟨0x10000000000000 + x.fractionBits, (x.exponentBits : Int) - 1075,
    x.fractionBits == 0 && x.exponentBits > 1⟩

/-- The magnitude of a finite double, none for NaN and the infinities. -/
def finite? (x : Double) : Option Magnitude :=
  if x.isFinite then some x.magnitude else none

/-- The integer `m * 2 ^ q`, if it is one. -/
def Magnitude.toNat? (v : Magnitude) : Option Nat :=
  if 0 ≤ v.q then some (v.m <<< v.q.toNat)
  else if v.m % (1 <<< (-v.q).toNat) = 0 then some (v.m >>> (-v.q).toNat)
  else none

/-- The integer that a double is, none when it has a fraction or is not finite. -/
def toInt? (x : Double) : Option Int :=
  x.finite?.bind fun v => v.toNat?.map fun n => if x.negative then -(n : Int) else n

/-- Equality of values: no NaN equals anything, and the zeros of both signs are equal. -/
def equal (x y : Double) : Bool :=
  !x.isNaN && !y.isNaN && (x.bits == y.bits || (x.isZero && y.isZero))

def zero : Double := ⟨0⟩

def one : Double := ⟨0x3FF0000000000000⟩

/-- The quotient by a whole number. Both the number and the quotient are rounded to nearest. -/
def divWord (x : Double) (n : UInt64) : Double :=
  ⟨(Float.ofBits x.bits / n.toFloat).toBits⟩

/-- The bits of the nearest binary32 number. -/
def toSingleBits (x : Double) : UInt32 := (Float.ofBits x.bits).toFloat32.toBits

end Double

end PluginKit
