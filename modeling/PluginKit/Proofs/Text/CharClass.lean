import PluginKit.Text.CharClass
import PluginKit.Value

/-!
# `PluginKit.Proofs.Text.CharClass`: texts that stay one field

A reader who splits a line at blank characters takes a text for one field when it has a character
and no blank one. Numbers are such texts, in whatever way they are written out.

* `Text.IsField`: the property, with `append` and `splitOnP_three` for texts that are put together.
* `Text.not_of_mem_splitOnP`: what a split leaves.
* `Text.isField_toDigits`, `Style.isField_plain`, `Value.isField_text`: numbers.
-/

set_option autoImplicit false

namespace PluginKit

namespace Text

/-- A text with a character and no blank one. White space is that of Unicode, so such a text stays
one field for readers that split at fewer characters, too. -/
structure IsField (cs : List Char) : Prop where
  filled : cs ≠ []
  solid : ∀ c ∈ cs, isBlank c = false

/-- The property as a test, for fixed texts. -/
theorem isField_of_all {cs : List Char} (h : (!cs.isEmpty && cs.all fun c => !isBlank c) = true) :
    IsField cs where
  filled := by
    rintro rfl
    simp at h
  solid := by
    intro c hc
    rw [Bool.and_eq_true, List.all_eq_true] at h
    simpa using h.2 c hc

/-- What a list is split at is in none of its parts. The library has the way back from parts to the
list, and not this. -/
theorem not_of_mem_splitOnP {α : Type} {p : α → Bool} {l part : List α} (h : part ∈ l.splitOnP p) :
    ∀ a ∈ part, p a = false := by
  induction l generalizing part with
  | nil =>
      rw [List.splitOnP_nil, List.mem_singleton] at h
      rw [h]
      exact List.forall_mem_nil _
  | cons first rest ih =>
      -- the first part is the one that grows, so the split of the rest is taken apart
      obtain ⟨start, more, hrest⟩ := List.exists_cons_of_ne_nil (List.splitOnP_ne_nil p rest)
      rw [List.splitOnP_cons_eq_if_modifyHead, hrest] at h
      rw [hrest] at ih
      cases hfirst : p first with
      | true =>
          rw [hfirst, if_pos rfl] at h
          rcases List.mem_cons.mp h with rfl | hpart
          · exact List.forall_mem_nil _
          · exact ih hpart
      | false =>
          rw [hfirst, if_neg Bool.false_ne_true, List.modifyHead_cons] at h
          rcases List.mem_cons.mp h with rfl | hpart
          · exact List.forall_mem_cons.mpr ⟨hfirst, ih List.mem_cons_self⟩
          · exact ih (List.mem_cons_of_mem _ hpart)

theorem isBlank_of_isDigit {c : Char} (h : c.isDigit = true) : isBlank c = false := by
  have hrange : 48 ≤ c.toNat ∧ c.toNat ≤ 57 := Char.isDigit_iff_toNat.mp h
  simp only [isBlank, inRanges, blankRanges, List.any_cons, List.any_nil, Bool.or_false,
    Bool.or_eq_false_iff, Bool.and_eq_false_iff, decide_eq_false_iff_not]
  omega

namespace IsField

variable {cs more : List Char}

/-- A field with more behind it is one field, if what is behind it has no blanks. -/
theorem append (h : IsField cs) (hmore : ∀ c ∈ more, isBlank c = false) : IsField (cs ++ more) where
  filled := List.append_ne_nil_of_left_ne_nil h.filled more
  solid := by
    intro c hc
    rcases List.mem_append.mp hc with hcs | hrest
    · exact h.solid c hcs
    · exact hmore c hrest

theorem cons {c : Char} (hc : isBlank c = false) (h : ∀ c ∈ cs, isBlank c = false) :
    IsField (c :: cs) where
  filled := List.cons_ne_nil c cs
  solid := List.forall_mem_cons.mpr ⟨hc, h⟩

end IsField

/-- Three fields with a blank between them are what a reader finds: no fewer, as each has a
character, and no more, as none has a blank. -/
theorem splitOnP_three {a b c : List Char} (ha : IsField a) (hb : IsField b) (hc : IsField c) :
    (a ++ ' ' :: (b ++ ' ' :: c)).splitOnP isBlank = [a, b, c] := by
  have hspace : isBlank ' ' = true := by decide
  rw [List.splitOnP_append_cons_of_forall_mem ha.solid _ hspace,
    List.splitOnP_append_cons_of_forall_mem hb.solid _ hspace,
    List.splitOnP_eq_singleton hc.solid]

/-! ### Numbers -/

theorem isField_toDigits (n : Nat) : IsField (Nat.toDigits 10 n) where
  filled := Nat.toDigits_ne_nil
  solid _ hc := isBlank_of_isDigit (Nat.isDigit_of_mem_toDigits (by decide) (by decide) hc)

theorem isField_nat (n : Nat) : IsField (toString n).toList := by
  rw [Nat.toString_eq_ofList_toDigits, String.toList_ofList]
  exact isField_toDigits n

theorem isField_int (n : Int) : IsField (toString n).toList := by
  cases n with
  | ofNat n => exact isField_nat n
  | negSucc n =>
      have htext : (toString (Int.negSucc n)).toList = '-' :: (toString (n + 1)).toList := by
        show ("-" ++ Nat.repr (n + 1)).toList = _
        rw [String.toList_append]
        rfl
      rw [htext]
      exact IsField.cons (by decide) (isField_nat (n + 1)).solid

end Text

namespace Style

open Text (IsField)

theorem isBlank_of_mem_zeros {n : Nat} {c : Char} (h : c ∈ zeros n) : Text.isBlank c = false := by
  rw [(List.mem_replicate.mp h).2]
  decide

/-- Zeros and a point around digits or between them make no blanks. Numbers without an exponent are
written in this way, whatever their size. -/
theorem isField_positionalText {digits : List Char} (h : IsField digits) (exponent : Int) :
    IsField (positionalText false digits exponent) := by
  have hpoint : Text.isBlank '.' = false := by decide
  unfold positionalText
  by_cases hwhole : 0 ≤ exponent
  · rw [if_pos hwhole]
    exact (h.append fun _ => isBlank_of_mem_zeros).append nofun
  · rw [if_neg hwhole]
    dsimp only
    by_cases hplaces : (-exponent).toNat < digits.length
    · -- the point falls between the digits
      rw [if_pos hplaces]
      refine ⟨by simp, fun c hc => ?_⟩
      rcases List.mem_append.mp hc with htake | hrest
      · exact h.solid c (List.mem_of_mem_take htake)
      · rcases List.mem_cons.mp hrest with rfl | hdrop
        · exact hpoint
        · exact h.solid c (List.mem_of_mem_drop hdrop)
    · rw [if_neg hplaces]
      have hzero : IsField ['0', '.'] := Text.isField_of_all (by decide)
      exact (hzero.append fun _ => isBlank_of_mem_zeros).append h.solid

theorem isField_decimalText_plain (d : Decimal) : IsField (plain.decimalText d) :=
  isField_positionalText (Text.isField_toDigits d.digits) d.exponent

/-- A double is one field in the style that has no exponents; the words for infinity and for what is
no number are fields as well. -/
theorem isField_plain (x : Double) : IsField (plain.render x).toList := by
  unfold render
  cases x.finite? with
  | none =>
      dsimp only
      -- one of three fixed words
      split
      · exact Text.isField_of_all (by decide)
      · split
        · exact Text.isField_of_all (by decide)
        · exact Text.isField_of_all (by decide)
  | some v =>
      have htext : IsField (if v.m = 0 then positionalText plain.wholePoint ['0'] 0
          else plain.decimalText (v.shortest plain.tie)) := by
        split
        · exact isField_positionalText (Text.isField_of_all (by decide)) 0
        · exact isField_decimalText_plain _
      dsimp only
      rw [String.toList_ofList]
      split
      · exact IsField.cons (by decide) htext.solid
      · exact htext

end Style

/-- A value of any kind is displayed as one field. -/
theorem Value.isField_text (v : Value) : Text.IsField v.text.toList := by
  cases v with
  | counter n | absolute n => exact Text.isField_nat n.toNat
  | gauge x => exact Style.isField_plain x
  | derive n => exact Text.isField_int n.toInt

end PluginKit
