/-!
# `PluginKit.Number.Word`: reading whole numbers

* `readNat?`: decimal digits, with an optional plus sign in front.
* `readUpTo?`: the same, up to a largest value.
-/

set_option autoImplicit false

namespace PluginKit

namespace Word

/-- The value of a character as an ASCII digit. -/
def digit? (c : Char) : Option Nat :=
  if '0' ≤ c ∧ c ≤ '9' then some (c.toNat - '0'.toNat) else none

/-- The number that a row of digits stands for, after the digits that are in `acc`. -/
def readDigits? (acc : Nat) : List Char → Option Nat
  | [] => some acc
  | c :: cs => (digit? c).bind fun d => readDigits? (10 * acc + d) cs

/-- A whole number: one or more digits, with an optional plus sign before them. -/
def readNat? (cs : List Char) : Option Nat :=
  match cs with
  | '+' :: rest => if rest.isEmpty then none else readDigits? 0 rest
  | cs => if cs.isEmpty then none else readDigits? 0 cs

/-- A whole number of at most `largest`. -/
def readUpTo? (largest : Nat) (cs : List Char) : Option Nat :=
  (readNat? cs).filter (· ≤ largest)

end Word

end PluginKit
