import PluginKit.Toml.Text
import PluginKit.Toml.Value

/-!
# `PluginKit.Toml.Scalar`: numbers, truth values and dates

Such a value is a word of letters, digits and a few marks, so it is read off as a whole and then
told apart by its spelling.

* `Scalar.integer?`, `Scalar.float?`, `Scalar.isDatetime`: the spellings.
* `Scalar.read`: reads the word that a text starts with.
-/

set_option autoImplicit false

namespace PluginKit

namespace Toml

namespace Scalar

/-! ### Numbers -/

/-- The digits of a number, without the single underscores that may stand between them. -/
def digits? (isDigit : Char → Bool) : List Char → Option (List Char)
  | [] => none
  | [c] => if isDigit c then some [c] else none
  | c :: '_' :: rest => if isDigit c then (digits? isDigit rest).map (c :: ·) else none
  | c :: rest => if isDigit c then (digits? isDigit rest).map (c :: ·) else none

/-- The number of some digits in a base. -/
def number (base : Nat) (digits : List Char) : Nat :=
  digits.foldl (fun n c => base * n + (Hex.digit? c).getD 0) 0

/-- Whether a character is a digit in a base of up to sixteen. -/
def isDigitIn (base : Nat) (c : Char) : Bool :=
  match Hex.digit? c with
  | some d => d < base
  | none => false

/-- The number of a row of digits in a base. -/
def inBase? (base : Nat) (word : List Char) : Option Nat :=
  (digits? (isDigitIn base) word).map (number base)

/-- A decimal number; only zero itself starts with a zero. -/
def decimal? (word : List Char) : Option Nat :=
  match word with
  | ['0'] => some 0
  | '0' :: _ => none
  | word => inBase? 10 word

/-- Takes a sign off. -/
def unsigned (word : List Char) : Bool × List Char :=
  match word with
  | '+' :: rest => (false, rest)
  | '-' :: rest => (true, rest)
  | rest => (false, rest)

/-- An integer of 64 bits. Only decimal ones have a sign. -/
def integer? (word : List Char) : Option Int :=
  let n : Option Int := match word with
    | '0' :: 'x' :: rest => (inBase? 16 rest).map Int.ofNat
    | '0' :: 'o' :: rest => (inBase? 8 rest).map Int.ofNat
    | '0' :: 'b' :: rest => (inBase? 2 rest).map Int.ofNat
    | word =>
      let (negative, rest) := unsigned word
      (decimal? rest).map fun n => if negative then -(n : Int) else n
  n.filter fun n => Int64.minValue.toInt ≤ n ∧ n ≤ Int64.maxValue.toInt

/-- Whether `m * 10 ^ e` is too large for a double: from halfway between the largest double and the
next power of two on. Lengths decide first, so that no huge power is computed. -/
def overflows (m : Nat) (e : Int) : Bool :=
  let length : Int := (Nat.toDigits 10 m).length
  let least := 0x3FFFFFFFFFFFFF <<< 970
  if m = 0 ∨ length + e ≤ 308 then false
  else if 310 < length + e then true
  else if 0 ≤ e then least ≤ m * Nat.pow 10 e.toNat
  else least * Nat.pow 10 (-e).toNat ≤ m

/-- The exponent that ends a float. -/
def exponent? (word : List Char) : Option Int :=
  match word with
  | c :: rest =>
    if c = 'e' ∨ c = 'E' then
      let (negative, rest) := unsigned rest
      (inBase? 10 rest).map fun n => if negative then -(n : Int) else n
    else none
  | [] => none

def isExponentMark (c : Char) : Bool := c == 'e' || c == 'E'

/-- The decimal digits and the exponent of a float: a whole number with a fraction, an exponent or
both. -/
def floatParts? (word : List Char) : Option (Nat × Int) :=
  let whole := word.takeWhile fun c => c != '.' && !isExponentMark c
  match word.dropWhile fun c => c != '.' && !isExponentMark c with
  | '.' :: rest => do
    let n ← decimal? whole
    let fraction ← digits? (isDigitIn 10) (rest.takeWhile fun c => !isExponentMark c)
    let tail := rest.dropWhile fun c => !isExponentMark c
    let e ← if tail.isEmpty then some 0 else exponent? tail
    return (n * Nat.pow 10 fraction.length + number 10 fraction, e - fraction.length)
  | tail => do
    let n ← decimal? whole
    let e ← exponent? tail
    return (n, e)

/-- Whether a word is a float. A positive one must not be too large. -/
def isFloat (word : List Char) : Bool :=
  let (negative, rest) := unsigned word
  if rest = ['i', 'n', 'f'] ∨ rest = ['n', 'a', 'n'] then true
  else
    match floatParts? rest with
    | some (m, e) => negative || !overflows m e
    | none => false

/-! ### Dates -/

/-- A row of so many digits, and what follows it. -/
def field? (length : Nat) (s : List Char) : Option (Nat × List Char) :=
  if (s.take length).length = length ∧ (s.take length).all (isDigitIn 10) then
    some (number 10 (s.take length), s.drop length)
  else none

/-- The days of a month. -/
def monthLength (year month : Nat) : Nat :=
  if month = 2 then
    if year % 4 = 0 ∧ (year % 100 ≠ 0 ∨ year % 400 = 0) then 29 else 28
  else if month = 4 ∨ month = 6 ∨ month = 9 ∨ month = 11 then 30
  else 31

/-- What follows a date that stands in the calendar. -/
def afterDate? (s : List Char) : Option (List Char) := do
  match ← field? 4 s with
  | (year, '-' :: rest) =>
    match ← field? 2 rest with
    | (month, '-' :: rest) =>
      let (day, rest) ← field? 2 rest
      if 1 ≤ month ∧ month ≤ 12 ∧ 1 ≤ day ∧ day ≤ monthLength year month then some rest else none
    | _ => none
  | _ => none

/-- What follows hours and minutes. -/
def afterMinutes? (s : List Char) : Option (List Char) := do
  match ← field? 2 s with
  | (hour, ':' :: rest) =>
    let (minute, rest) ← field? 2 rest
    if hour ≤ 23 ∧ minute ≤ 59 then some rest else none
  | _ => none

/-- What follows a time of day, with seconds and perhaps a fraction of them. A minute may have a
leap second. -/
def afterTime? (s : List Char) : Option (List Char) := do
  match ← afterMinutes? s with
  | ':' :: rest =>
    let (second, rest) ← field? 2 rest
    if second ≤ 60 then
      match rest with
      | '.' :: fraction =>
        if (fraction.takeWhile (isDigitIn 10)).isEmpty then none
        else some (fraction.dropWhile (isDigitIn 10))
      | rest => some rest
    else none
  | _ => none

/-- Whether nothing or a zone's distance from universal time is left. -/
def endsTime : List Char → Bool
  | [] => true
  | ['Z'] => true
  | ['z'] => true
  | '+' :: rest => afterMinutes? rest == some []
  | '-' :: rest => afterMinutes? rest == some []
  | _ => false

/-- Whether a word is a date, a time of day, or both with a mark between them. -/
def isDatetime (word : List Char) : Bool :=
  match afterDate? word with
  | some [] => true
  | some (c :: rest) =>
    (c == 'T' || c == 't' || c == ' ') &&
      match afterTime? rest with
      | some rest => endsTime rest
      | none => false
  | none => afterTime? word == some []

/-! ### Words -/

/-- The characters of words. -/
def isWordChar (c : Char) : Bool :=
  c.isAlphanum || c == '+' || c == '-' || c == '_' || c == '.' || c == ':'

/-- The value of a word. -/
def ofWord? (word : List Char) : Option Value :=
  if word = ['t', 'r', 'u', 'e'] then some (.boolean true)
  else if word = ['f', 'a', 'l', 's', 'e'] then some (.boolean false)
  else
    match integer? word with
    | some n => some (.integer n)
    | none =>
      if isFloat word then some (.float (String.ofList word))
      else if isDatetime word then some (.datetime (String.ofList word))
      else none

/-- The word that a text starts with, and what follows it. A date takes a time of day after a blank
with it. -/
def word (s : List Char) : List Char × List Char :=
  let first := s.takeWhile isWordChar
  match s.dropWhile isWordChar with
  | ' ' :: rest =>
    let second := rest.takeWhile isWordChar
    if afterDate? first = some [] ∧ second ≠ [] then
      (first ++ ' ' :: second, rest.dropWhile isWordChar)
    else (first, ' ' :: rest)
  | rest => (first, rest)

/-- Reads the value that a text starts with. -/
def read (s : List Char) : Option (Value × List Char) :=
  (ofWord? (word s).1).map fun v => (v, (word s).2)

end Scalar

end Toml

end PluginKit
