import PluginKit.Proofs.Time.Order

/-!
# `PluginKit.Proofs.Time.Rounding`: no step of a conversion loses anything

Both conversions take seconds and fractions apart, round the fraction alone and put the two together
again, all in one word. That the outcome is right does not say that each step is: sums may wrap around
and cancel out. So a conversion is written down as a formula here, with a value in words and one in
unbounded numbers, and all of its parts are shown to have the same value in both.

* `Formula`, `Formula.word`, `Formula.unbounded`: a computation on one word and its two values.
* `Formula.toNat_word`: the two values agree where every part fits a word.
* `Formula.Faithful`: all parts fit and agree, and no bit is joined twice.
* `writing`, `reading`: the two conversions as formulas.
* `conversions_round_to_nearest`: what the conversions come to, by steps that lose nothing.
-/

set_option autoImplicit false

namespace PluginKit

/-! ### Computations on one word -/

/-- The operations on words that the two conversions use. -/
inductive Operation where
  | add
  | mul
  | div
  | mod
  | and
  | or
  | shiftLeft
  | shiftRight
  deriving DecidableEq, Repr

namespace Operation

/-- The operation on words. What does not fit a word is lost. -/
def word : Operation → UInt64 → UInt64 → UInt64
  | add, a, b => a + b
  | mul, a, b => a * b
  | div, a, b => a / b
  | mod, a, b => a % b
  | and, a, b => a &&& b
  | or, a, b => a ||| b
  | shiftLeft, a, b => a <<< b
  | shiftRight, a, b => a >>> b

/-- The operation on unbounded numbers. -/
def unbounded : Operation → Nat → Nat → Nat
  | add, a, b => a + b
  | mul, a, b => a * b
  | div, a, b => a / b
  | mod, a, b => a % b
  | and, a, b => a &&& b
  | or, a, b => a ||| b
  | shiftLeft, a, b => a <<< b
  | shiftRight, a, b => a >>> b

/-- Whether the second operand is a number of bits, which has to be less than the bits of a word. -/
def isShift : Operation → Bool
  | shiftLeft | shiftRight => true
  | _ => false

/-- A result that fits is the same in words. A word cannot be shifted by more bits than it has. -/
theorem toNat_word {op : Operation} {a b : UInt64}
    (hfits : op.unbounded a.toNat b.toNat < 2 ^ 64) (hshift : op.isShift = false ∨ b.toNat < 64) :
    (op.word a b).toNat = op.unbounded a.toNat b.toNat := by
  -- Sums, products and shifts to the left need the bound; the others cannot pass it.
  cases op with
  | add =>
      show (a + b).toNat = _
      rw [UInt64.toNat_add]
      exact Nat.mod_eq_of_lt hfits
  | mul =>
      show (a * b).toNat = _
      rw [UInt64.toNat_mul]
      exact Nat.mod_eq_of_lt hfits
  | div => exact UInt64.toNat_div a b
  | mod => exact UInt64.toNat_mod a b
  | and => exact UInt64.toNat_and a b
  | or => exact UInt64.toNat_or a b
  | shiftLeft =>
      show (a <<< b).toNat = _
      rw [UInt64.toNat_shiftLeft, Nat.mod_eq_of_lt (hshift.resolve_left nofun)]
      exact Nat.mod_eq_of_lt hfits
  | shiftRight =>
      show (a >>> b).toNat = _
      rw [UInt64.toNat_shiftRight, Nat.mod_eq_of_lt (hshift.resolve_left nofun)]
      rfl

end Operation

/-- A computation on one word. It is data, so that all of its parts can be looked at, and not only
what it comes to. -/
inductive Formula where
  | input
  | literal (n : UInt64)
  | apply (op : Operation) (a b : Formula)
  deriving DecidableEq, Repr

namespace Formula

/-- The value in words. This is what the code computes. -/
def word (x : UInt64) : Formula → UInt64
  | input => x
  | literal n => n
  | apply op a b => op.word (a.word x) (b.word x)

/-- The value in unbounded numbers. This is what the code is meant to compute. -/
def unbounded (x : Nat) : Formula → Nat
  | input => x
  | literal n => n.toNat
  | apply op a b => op.unbounded (a.unbounded x) (b.unbounded x)

/-- The formula and all formulas inside it, which are the intermediate results of a computation. -/
def parts : Formula → List Formula
  | input => [input]
  | literal n => [literal n]
  | apply op a b => apply op a b :: (a.parts ++ b.parts)

/-- A formula is among its own parts. -/
theorem self_mem_parts (f : Formula) : f ∈ f.parts := by
  cases f <;> exact List.mem_cons_self

/-- What is inside a part is inside the whole. So whatever is known of all parts is known of a part
and of all that is inside it. -/
theorem parts_subset {f part : Formula} (h : part ∈ f.parts) : part.parts ⊆ f.parts := by
  induction f with
  | input =>
      rw [List.mem_singleton.mp h]
      exact List.Subset.refl _
  | literal n =>
      rw [List.mem_singleton.mp h]
      exact List.Subset.refl _
  | apply op a b iha ihb =>
      rcases List.mem_cons.mp h with rfl | hinside
      · exact List.Subset.refl _
      · rcases List.mem_append.mp hinside with ha | hb
        · exact fun _ hmem => List.mem_cons_of_mem _ (List.mem_append_left _ (iha ha hmem))
        · exact fun _ hmem => List.mem_cons_of_mem _ (List.mem_append_right _ (ihb hb hmem))

/-- No part is too large for a word, and no shift goes past the end of one. -/
structure Fits (f : Formula) (x : UInt64) : Prop where
  bound : ∀ part ∈ f.parts, part.unbounded x.toNat < 2 ^ 64
  shift : ∀ op a b, apply op a b ∈ f.parts → op.isShift = false ∨ b.unbounded x.toNat < 64

/-- If a formula fits, each part of it fits by itself. -/
theorem Fits.part {f part : Formula} {x : UInt64} (h : f.Fits x) (hpart : part ∈ f.parts) :
    part.Fits x :=
  ⟨fun inner hinner => h.bound inner (parts_subset hpart hinner),
    fun op a b hinner => h.shift op a b (parts_subset hpart hinner)⟩

/-- The input is a word. -/
theorem fits_input (x : UInt64) : input.Fits x where
  bound part hpart := by
    rw [List.mem_singleton.mp hpart]
    exact x.toNat_lt
  shift op a b hpart := nomatch List.mem_singleton.mp hpart

/-- A literal is a word, too. -/
theorem fits_literal (n x : UInt64) : (literal n).Fits x where
  bound part hpart := by
    rw [List.mem_singleton.mp hpart]
    exact n.toNat_lt
  shift op a b hpart := nomatch List.mem_singleton.mp hpart

/-- A formula fits if what it is made of does and its own value does. One bound is left for each
operation this way. -/
theorem Fits.join {op : Operation} {a b : Formula} {x : UInt64} (ha : a.Fits x) (hb : b.Fits x)
    (hbound : op.unbounded (a.unbounded x.toNat) (b.unbounded x.toNat) < 2 ^ 64)
    (hshift : op.isShift = false ∨ b.unbounded x.toNat < 64) : (apply op a b).Fits x where
  bound part hpart := by
    rcases List.mem_cons.mp hpart with rfl | hinside
    · exact hbound
    · rcases List.mem_append.mp hinside with h | h
      · exact ha.bound part h
      · exact hb.bound part h
  shift op' a' b' hpart := by
    rcases List.mem_cons.mp hpart with heq | hinside
    · obtain ⟨rfl, rfl, rfl⟩ := Formula.apply.inj heq
      exact hshift
    · rcases List.mem_append.mp hinside with h | h
      · exact ha.shift op' a' b' h
      · exact hb.shift op' a' b' h

/-- So does one whose value is no larger than what it starts from. Divisions, remainders, masks and
shifts to the right need no bound. -/
theorem Fits.lessen {op : Operation} {a b : Formula} {x : UInt64} (ha : a.Fits x) (hb : b.Fits x)
    (hle : op.unbounded (a.unbounded x.toNat) (b.unbounded x.toNat) ≤ a.unbounded x.toNat)
    (hshift : op.isShift = false ∨ b.unbounded x.toNat < 64) : (apply op a b).Fits x :=
  ha.join hb (Nat.lt_of_le_of_lt hle (ha.bound a (self_mem_parts a))) hshift

/-- Where everything fits, words count as unbounded numbers do. -/
theorem toNat_word {f : Formula} {x : UInt64} (h : f.Fits x) :
    (f.word x).toNat = f.unbounded x.toNat := by
  induction f with
  | input => rfl
  | literal n => rfl
  | apply op a b iha ihb =>
      -- what fits as a whole fits in each of its parts, so the operands agree before the result does
      have hself := self_mem_parts (apply op a b)
      have ha : (a.word x).toNat = a.unbounded x.toNat :=
        iha (h.part (List.mem_cons_of_mem _ (List.mem_append_left _ (self_mem_parts a))))
      have hb : (b.word x).toNat = b.unbounded x.toNat :=
        ihb (h.part (List.mem_cons_of_mem _ (List.mem_append_right _ (self_mem_parts b))))
      have hbound : op.unbounded (a.word x).toNat (b.word x).toNat < 2 ^ 64 := by
        rw [ha, hb]
        exact h.bound _ hself
      have hshift : op.isShift = false ∨ (b.word x).toNat < 64 := by
        rw [hb]
        exact h.shift op a b hself
      show (op.word (a.word x) (b.word x)).toNat = op.unbounded _ _
      rw [Operation.toNat_word hbound hshift, ha, hb]

/-- A computation that loses nothing on the way: no part is too large for a word, each has the value
that it has in unbounded numbers, and words are joined only if no bit is set in both. -/
structure Faithful (f : Formula) (x : UInt64) : Prop where
  bound : ∀ part ∈ f.parts, part.unbounded x.toNat < 2 ^ 64
  agrees : ∀ part ∈ f.parts, (part.word x).toNat = part.unbounded x.toNat
  apart : ∀ a b, apply .or a b ∈ f.parts → a.word x &&& b.word x = 0

/-- A formula that fits loses nothing. That words are joined without a common bit can be shown of
unbounded numbers then. -/
theorem Fits.faithful {f : Formula} {x : UInt64} (h : f.Fits x)
    (apart : ∀ a b, apply .or a b ∈ f.parts → a.unbounded x.toNat &&& b.unbounded x.toNat = 0) :
    f.Faithful x where
  bound := h.bound
  agrees part hpart := toNat_word (h.part hpart)
  apart a b hjoin := by
    have hinside := parts_subset hjoin
    have ha := hinside (List.mem_cons_of_mem _ (List.mem_append_left _ (self_mem_parts a)))
    have hb := hinside (List.mem_cons_of_mem _ (List.mem_append_right _ (self_mem_parts b)))
    apply UInt64.toNat_inj.mp
    rw [UInt64.toNat_and, toNat_word (h.part ha), toNat_word (h.part hb), apart a b hjoin]
    rfl

end Formula

namespace Ticks

open Formula (input literal apply)

/-! ### The conversions as formulas -/

/-- A billion, the nanoseconds of a second. -/
def second : Formula := literal 1000000000

/-- The whole seconds of nanoseconds, in the upper 34 bits. -/
def writtenSeconds : Formula := apply .shiftLeft (apply .div input second) (literal 30)

/-- The nanoseconds past the whole seconds, rounded to ticks. -/
def writtenFraction : Formula :=
  apply .div
    (apply .add (apply .shiftLeft (apply .mod input second) (literal 30)) (literal 500000000))
    second

/-- Nanoseconds as ticks. -/
def writing : Formula := apply .or writtenSeconds writtenFraction

/-- The whole seconds of ticks, in nanoseconds. -/
def readSeconds : Formula := apply .mul (apply .shiftRight input (literal 30)) second

/-- The ticks past the whole seconds, rounded to nanoseconds. -/
def readFraction : Formula :=
  apply .shiftRight
    (apply .add (apply .mul (apply .and input (literal 0x3FFFFFFF)) second) (literal 0x20000000))
    (literal 30)

/-- Ticks as nanoseconds. -/
def reading : Formula := apply .add readSeconds readFraction

/-! ### The steps of writing -/

section
variable (n : Nat)

/-- The shift of the code is the product of the arithmetic. -/
theorem unbounded_writtenSeconds :
    writtenSeconds.unbounded n = n / 1000000000 * 2 ^ 30 := Nat.shiftLeft_eq _ _

/-- Half of the divisor is added before the division, which makes it round to nearest. -/
theorem unbounded_writtenFraction :
    writtenFraction.unbounded n = (n % 1000000000 * 2 ^ 30 + 500000000) / 1000000000 := by
  show ((n % 1000000000) <<< 30 + 500000000) / 1000000000 = _
  rw [Nat.shiftLeft_eq]

/-- The fraction is less than a second, so it stays below the lowest bit of the seconds. -/
theorem unbounded_writtenFraction_lt : writtenFraction.unbounded n < 2 ^ 30 := by
  rw [unbounded_writtenFraction]
  omega

/-- Seconds and fraction share no bit. So joining them is adding them. -/
theorem written_apart : writtenSeconds.unbounded n &&& writtenFraction.unbounded n = 0 := by
  have hfraction := unbounded_writtenFraction_lt n
  apply Nat.eq_of_testBit_eq
  intro i
  show ((n / 1000000000) <<< 30 &&& _).testBit i = Nat.testBit 0 i
  rw [Nat.testBit_and, Nat.testBit_shiftLeft, Nat.zero_testBit]
  by_cases hi : 30 ≤ i
  · have hlow := Nat.testBit_lt_two_pow
      (hfraction.trans_le (Nat.pow_le_pow_right (by decide) hi))
    rw [hlow, Bool.and_false]
  · rw [decide_eq_false hi, Bool.false_and, Bool.false_and]

end

/-- Writing fits below the span. That is where the bound on the input comes from: past it the
seconds do not fit when they are shifted. -/
theorem fits_writing {n : UInt64} (h : n.toNat < span) : writing.Fits n := by
  have hspan : span = 17179869184000000000 := rfl
  have hinput := Formula.fits_input n
  have hsecond := Formula.fits_literal 1000000000 n
  have hbits := Formula.fits_literal 30 n
  have hshift : (literal 30).unbounded n.toNat < 64 := by
    show 30 < 64
    decide
  -- below the span the whole seconds need 34 bits, so they can be moved up by 30
  have hseconds : writtenSeconds.Fits n := by
    refine (hinput.lessen hsecond (Nat.div_le_self _ _) (.inl rfl)).join hbits ?_ (.inr hshift)
    show writtenSeconds.unbounded n.toNat < 2 ^ 64
    rw [unbounded_writtenSeconds]
    omega
  -- a fraction stays below a second, whatever the input
  have hfraction : writtenFraction.Fits n := by
    refine ((((hinput.lessen hsecond (Nat.mod_le _ _) (.inl rfl)).join hbits ?_ (.inr hshift)).join
      (Formula.fits_literal 500000000 n) ?_ (.inl rfl)).lessen hsecond (Nat.div_le_self _ _)
      (.inl rfl))
    · show (n.toNat % 1000000000) <<< 30 < 2 ^ 64
      rw [Nat.shiftLeft_eq]
      omega
    · show (n.toNat % 1000000000) <<< 30 + 500000000 < 2 ^ 64
      rw [Nat.shiftLeft_eq]
      omega
  exact hseconds.join hfraction (Nat.or_lt_two_pow (hseconds.bound _ (Formula.self_mem_parts _))
    (hfraction.bound _ (Formula.self_mem_parts _))) (.inl rfl)

/-- Within the span nothing is lost when nanoseconds are written as ticks. -/
theorem faithful_writing {n : UInt64} (h : n.toNat < span) : writing.Faithful n := by
  refine (fits_writing h).faithful fun a b hjoin => ?_
  -- there is one place where words are joined
  obtain ⟨rfl, rfl⟩ : a = writtenSeconds ∧ b = writtenFraction := by
    simpa [writing, writtenSeconds, writtenFraction, second, Formula.parts] using hjoin
  exact written_apart n.toNat

/-! ### The steps of reading -/

section
variable (n : Nat)

/-- The seconds that are read are those of the division by a second of ticks. -/
theorem unbounded_readSeconds : readSeconds.unbounded n = n / 2 ^ 30 * 1000000000 := by
  show (n >>> 30) * 1000000000 = _
  rw [Nat.shiftRight_eq_div_pow]

/-- The mask keeps the remainder, and half of the divisor is added before the shift, which is a
division here. -/
theorem unbounded_readFraction :
    readFraction.unbounded n = (n % 2 ^ 30 * 1000000000 + 2 ^ 29) / 2 ^ 30 := by
  show ((n &&& 2 ^ 30 - 1) * 1000000000 + 2 ^ 29) >>> 30 = _
  rw [Nat.and_two_pow_sub_one_eq_mod, Nat.shiftRight_eq_div_pow]

end

/-- Reading fits for every word: 34 bits of seconds leave room for a billion. -/
theorem fits_reading (t : Ticks) : reading.Fits t := by
  have hword : t.toNat < 2 ^ 64 := t.toNat_lt
  have hinput := Formula.fits_input t
  have hsecond := Formula.fits_literal 1000000000 t
  have hbits := Formula.fits_literal 30 t
  have hshift : (literal 30).unbounded t.toNat < 64 := by
    show 30 < 64
    decide
  have hmask : t.toNat &&& 0x3FFFFFFF = t.toNat % 2 ^ 30 := Nat.and_two_pow_sub_one_eq_mod _ 30
  -- 34 bits of seconds, in nanoseconds, are less than a word, and the fraction still fits beside them
  have hseconds : readSeconds.Fits t := by
    refine (hinput.lessen hbits (Nat.shiftRight_le _ _) (.inr hshift)).join hsecond ?_ (.inl rfl)
    show readSeconds.unbounded t.toNat < 2 ^ 64
    rw [unbounded_readSeconds]
    omega
  have hfraction : readFraction.Fits t := by
    refine ((((hinput.lessen (Formula.fits_literal 0x3FFFFFFF t) Nat.and_le_left (.inl rfl)).join
      hsecond ?_ (.inl rfl)).join (Formula.fits_literal 0x20000000 t) ?_ (.inl rfl)).lessen hbits
      (Nat.shiftRight_le _ _) (.inr hshift))
    · show (t.toNat &&& 0x3FFFFFFF) * 1000000000 < 2 ^ 64
      rw [hmask]
      omega
    · show (t.toNat &&& 0x3FFFFFFF) * 1000000000 + 0x20000000 < 2 ^ 64
      rw [hmask]
      omega
  refine hseconds.join hfraction ?_ (.inl rfl)
  show readSeconds.unbounded t.toNat + readFraction.unbounded t.toNat < 2 ^ 64
  rw [unbounded_readSeconds, unbounded_readFraction]
  omega

/-- Nothing is lost when ticks are read as nanoseconds. -/
theorem faithful_reading (t : Ticks) : reading.Faithful t := by
  refine (fits_reading t).faithful fun a b hjoin => ?_
  simp [reading, readSeconds, readFraction, second, Formula.parts] at hjoin

/-! ### Both conversions -/

/-- Seconds and fraction of ticks, taken apart, are rounded as the whole is. So the two halves of
the code come to one division. -/
theorem toNat_toNanos_eq (t : Ticks) :
    (toNanos t).toNat = (t.toNat * 1000000000 + 2 ^ 29) / 2 ^ 30 := by
  rw [toNat_toNanos]
  omega

/-- Nanoseconds that fit the 34 bits of seconds become the nearest ticks, and ticks the nearest
nanoseconds, halves up in both. The words are those of formulas that lose nothing on the way. -/
theorem conversions_round_to_nearest :
    (∀ n : UInt64, n.toNat < 2 ^ 34 * 1000000000 →
      (ofNanos n).toNat = (n.toNat * 2 ^ 30 + 500000000) / 1000000000 ∧
      ofNanos n = writing.word n ∧ writing.Faithful n) ∧
    ∀ t : Ticks, (toNanos t).toNat = (t.toNat * 1000000000 + 2 ^ 29) / 2 ^ 30 ∧
      toNanos t = reading.word t ∧ reading.Faithful t :=
  ⟨fun _ h => ⟨toNat_ofNanos_eq_exact h, rfl, faithful_writing h⟩,
    fun t => ⟨toNat_toNanos_eq t, rfl, faithful_reading t⟩⟩

/-- The last nanosecond that fits is rounded up to the largest word, and the largest word is read as
that nanosecond. -/
theorem conversions_round_to_nearest_at_end :
    (ofNanos 17179869183999999999).toNat = 2 ^ 64 - 1 ∧
      (toNanos 0xFFFFFFFFFFFFFFFF).toNat = 17179869183999999999 := by
  obtain ⟨hwriting, hreading⟩ := conversions_round_to_nearest
  -- both inputs are at the end of what a conversion takes
  refine ⟨?_, ?_⟩
  · rw [(hwriting 17179869183999999999 (by decide)).1]
    rfl
  · rw [(hreading 0xFFFFFFFFFFFFFFFF).1]
    rfl

end Ticks

end PluginKit
