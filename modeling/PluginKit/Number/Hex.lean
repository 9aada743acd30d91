/-!
# `PluginKit.Number.Hex`: hexadecimal digits

* `Hex.number?`: the number of a row of digits.
* `Hex.codePoint?`: a character by a fixed count of digits.
-/

set_option autoImplicit false

namespace PluginKit

namespace Hex

/-- The value of a hexadecimal digit. -/
def digit? (c : Char) : Option Nat :=
  if '0' ≤ c ∧ c ≤ '9' then some (c.toNat - '0'.toNat)
  else if 'a' ≤ c ∧ c ≤ 'f' then some (c.toNat - 'a'.toNat + 10)
  else if 'A' ≤ c ∧ c ≤ 'F' then some (c.toNat - 'A'.toNat + 10)
  else none

/-- The number that a row of digits stands for, after the digits that are in `acc`. -/
def number? (acc : Nat) : List Char → Option Nat
  | [] => some acc
  | c :: cs => (digit? c).bind fun d => number? (16 * acc + d) cs

/-- The character with a number; surrogates are none. -/
def scalar? (n : Nat) : Option Char := if n.isValidChar then some (Char.ofNat n) else none

/-- A character by so many digits, and what follows them. -/
def codePoint? (digits : Nat) (s : List Char) : Option (Char × List Char) :=
  if (s.take digits).length = digits then do
    let c ← scalar? (← number? 0 (s.take digits))
    return (c, s.drop digits)
  else none

end Hex

end PluginKit
