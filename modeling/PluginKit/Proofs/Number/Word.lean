import PluginKit.Number.Word

/-!
# `PluginKit.Proofs.Number.Word`: how whole numbers are spelled

A reader goes over the digits once, with what it has so far. The spellings that it accepts can be said
without it: one or more ASCII digits in base ten, with an optional plus sign in front. Zeros before
the first other digit are allowed, so a number has many spellings, and a spelling has one number.

* `Word.Digits`, `Word.Numeral`: the spellings of a number.
* `Word.readNat?_eq_some_iff`, `Word.readUpTo?_eq_some_iff`: what is read.
* `Word.Numeral.mem`, `Word.numeral_toDigits`: the characters of a spelling, and the usual one.
-/

set_option autoImplicit false

namespace PluginKit

namespace Word

/-- One or more digits that stand for a number, the highest first. They are the ten of ASCII; digits
of other scripts are not read. -/
structure Digits (n : Nat) (cs : List Char) : Prop where
  filled : cs ≠ []
  digits : ∀ c ∈ cs, c.isDigit = true
  value : Nat.ofDigitChars 10 cs 0 = n

/-- The spellings of a number: digits, with a plus sign or without. A minus sign is not read, not
even before zero. -/
inductive Numeral (n : Nat) : List Char → Prop where
  | plain {cs : List Char} : Digits n cs → Numeral n cs
  | plus {cs : List Char} : Digits n cs → Numeral n ('+' :: cs)

variable {cs : List Char} {n acc largest : Nat}

/-! ### Digits -/

/-- The property as a test, for fixed texts. -/
theorem digits_of_all (h : (!cs.isEmpty && cs.all Char.isDigit) = true)
    (hvalue : Nat.ofDigitChars 10 cs 0 = n) : Digits n cs where
  filled := by
    rintro rfl
    simp at h
  digits := by
    rw [Bool.and_eq_true, List.all_eq_true] at h
    exact h.2
  value := hvalue

/-- A digit is read as its distance from zero. -/
theorem digit?_eq (c : Char) :
    digit? c = if c.isDigit = true then some (c.toNat - '0'.toNat) else none := by
  have hrange : ('0' ≤ c ∧ c ≤ '9') ↔ c.isDigit = true := Char.isDigit_iff_toNat.symm
  simp only [digit?, hrange]

/-- A row of characters is read to its end if they are digits, and the number goes on from what was
read before. The number that was read before is the accumulator of the loop, so the induction needs
it for every such number. -/
theorem readDigits?_eq_some_iff :
    readDigits? acc cs = some n ↔
      (∀ c ∈ cs, c.isDigit = true) ∧ Nat.ofDigitChars 10 cs acc = n := by
  induction cs generalizing acc with
  | nil => simp [readDigits?]
  | cons c rest ih =>
      -- the first character is read alone, and the rest with it as what was read before
      rw [readDigits?, digit?_eq, List.forall_mem_cons, Nat.ofDigitChars_cons]
      cases hc : c.isDigit with
      | true => simp [ih]
      | false => simp

/-- A row without characters is no number. -/
theorem readDigits?_of_filled_eq_some_iff :
    (if cs.isEmpty then none else readDigits? 0 cs) = some n ↔ Digits n cs := by
  cases cs with
  | nil => exact ⟨nofun, fun h => absurd rfl h.filled⟩
  | cons c rest =>
      rw [if_neg (by simp), readDigits?_eq_some_iff]
      exact ⟨fun h => ⟨List.cons_ne_nil c rest, h.1, h.2⟩, fun h => ⟨h.digits, h.value⟩⟩

/-! ### Numerals -/

/-- The plus sign is no digit, so a row that starts with it is read in one way. -/
theorem numeral_plus_iff : Numeral n ('+' :: cs) ↔ Digits n cs := by
  constructor
  · rintro (hplain | hplus)
    · have hsign : '+'.isDigit = true := hplain.digits '+' List.mem_cons_self
      exact absurd hsign (by decide)
    · exact hplus
  · exact .plus

theorem numeral_iff_of_ne (h : ∀ rest, cs ≠ '+' :: rest) : Numeral n cs ↔ Digits n cs := by
  constructor
  · rintro (hplain | hplus)
    · exact hplain
    · exact absurd rfl (h _)
  · exact .plain

/-- What is read is a spelling, and every spelling is read as its number. -/
theorem readNat?_eq_some_iff : readNat? cs = some n ↔ Numeral n cs := by
  unfold readNat?
  split
  next rest => rw [readDigits?_of_filled_eq_some_iff, numeral_plus_iff]
  next hplain => rw [readDigits?_of_filled_eq_some_iff, numeral_iff_of_ne hplain]

/-- With a bound, spellings of larger numbers are refused, however many zeros are in front of the
others. -/
theorem readUpTo?_eq_some_iff : readUpTo? largest cs = some n ↔ Numeral n cs ∧ n ≤ largest := by
  unfold readUpTo?
  rw [Option.filter_eq_some_iff, readNat?_eq_some_iff, decide_eq_true_eq]

/-- A spelling has no characters but digits and a plus sign, so no dots and no blanks. -/
theorem Numeral.mem {c : Char} (h : Numeral n cs) (hc : c ∈ cs) : c = '+' ∨ c.isDigit = true := by
  cases h with
  | plain hdigits => exact .inr (hdigits.digits c hc)
  | plus hdigits => exact (List.mem_cons.mp hc).imp_right (hdigits.digits c)

/-- The digits that are written for a number spell it. -/
theorem numeral_toDigits (n : Nat) : Numeral n (Nat.toDigits 10 n) :=
  .plain ⟨Nat.toDigits_ne_nil,
    fun _ => Nat.isDigit_of_mem_toDigits (by decide) (by decide),
    Nat.ofDigitChars_ten_toDigits⟩

end Word

end PluginKit
