import PluginKit.Number.Shortest

/-!
# `PluginKit.Number.Layout`: how a number is written

A style says which numbers are written positionally, whether a whole number keeps a point, how a tie
between two shortest decimals goes, and what stands for the values that are no numbers.

* `Style.render`: the text of a double in a style.
* `Style.plain`, `Style.pointed`: positional throughout, for people and for the wire.
* `Style.json`: exponents for very large and very small numbers, `null` for what JSON cannot hold.
-/

set_option autoImplicit false

namespace PluginKit

/-- The decisions of a number format. -/
structure Style where
  /-- The exponents of the leading digit from the first up to the second are written positionally;
  none means that all are. -/
  positional : Option (Int × Int)
  /-- A whole number ends in `.0`. -/
  wholePoint : Bool
  tie : Tie
  nan : String
  infinity : String
  minusInfinity : String
  deriving Repr

namespace Style

/-- Zeros in a row. -/
def zeros (n : Nat) : List Char := List.replicate n '0'

/-- Digits with a point where the exponent says, padded with zeros on either side. -/
def positionalText (wholePoint : Bool) (digits : List Char) (exponent : Int) : List Char :=
  if 0 ≤ exponent then
    digits ++ zeros exponent.toNat ++ (if wholePoint then ['.', '0'] else [])
  else
    let places := (-exponent).toNat
    if places < digits.length then
      digits.take (digits.length - places) ++ '.' :: digits.drop (digits.length - places)
    else
      ['0', '.'] ++ zeros (places - digits.length) ++ digits

/-- One digit, a point before the others, and the exponent with its sign. -/
def scientificText (digits : List Char) (lead : Int) : List Char :=
  let rest := digits.drop 1
  digits.take 1 ++ (if rest.isEmpty then [] else '.' :: rest) ++
    ['e', if lead < 0 then '-' else '+'] ++ (Nat.toDigits 10 lead.natAbs)

/-- The text of a decimal. -/
def decimalText (style : Style) (d : Decimal) : List Char :=
  let digits := Nat.toDigits 10 d.digits
  let lead := d.exponent + digits.length - 1
  match style.positional with
  | none => positionalText style.wholePoint digits d.exponent
  | some (low, high) =>
    if low ≤ lead ∧ lead < high then positionalText style.wholePoint digits d.exponent
    else scientificText digits lead

/-- The text of a double. -/
def render (style : Style) (x : Double) : String :=
  match x.finite? with
  | none =>
    if x.isNaN then style.nan
    else if x.negative then style.minusInfinity else style.infinity
  | some v =>
    let text :=
      if v.m = 0 then positionalText style.wholePoint ['0'] 0
      else style.decimalText (v.shortest style.tie)
    String.ofList (if x.negative then '-' :: text else text)

/-- All digits are written out, however large or small the number. -/
def plain : Style where
  positional := none
  wholePoint := false
  tie := .away
  nan := "NaN"
  infinity := "inf"
  minusInfinity := "-inf"

/-- As `plain`, with a place after the point even in a whole number. -/
def pointed : Style := { plain with wholePoint := true }

/-- Numbers from `1e-5` up to `1e16` are written positionally, with at least one place. -/
def json : Style where
  positional := some (-5, 16)
  wholePoint := true
  tie := .toEven
  nan := "null"
  infinity := "null"
  minusInfinity := "null"

end Style

/-- The plain text of a double. -/
def Double.text (x : Double) : String := Style.plain.render x

end PluginKit
