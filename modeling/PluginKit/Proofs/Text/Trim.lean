import Mathlib.Data.List.DropRight
import PluginKit.Text.CharClass

/-!
# `PluginKit.Proofs.Text.Trim`: a text without the white space around it

`trimChars` takes white space off both ends of a text as long as there is some. What it leaves can be
said without the two walks: a part of the text with nothing but white space before and behind it, and
none at its own ends. There is exactly one such part.

* `Text.Stripped`: the relation between a text and that part.
* `Text.trimChars_eq_iff`: trimming is this relation.
-/

set_option autoImplicit false

namespace PluginKit

namespace Text

/-- What is left of a text without the white space around it. An empty rest has no ends, so a text
of white space alone is stripped to nothing. -/
structure Stripped (cs core : List Char) : Prop where
  around : ∃ before after, cs = before ++ core ++ after ∧
    (∀ c ∈ before, isBlank c = true) ∧ ∀ c ∈ after, isBlank c = true
  first : ∀ c, core.head? = some c → isBlank c = false
  last : ∀ c, core.getLast? = some c → isBlank c = false

variable {cs core : List Char}

/-- Trimming as two walks of the library, the second from the end. -/
theorem trimChars_eq (cs : List Char) : trimChars cs = (cs.dropWhile isBlank).rdropWhile isBlank :=
  rfl

/-- Trimming strips: what both walks passed over is white space, and where they stopped is none. -/
theorem stripped_trimChars (cs : List Char) : Stripped cs (trimChars cs) where
  around := by
    refine ⟨cs.takeWhile isBlank, (cs.dropWhile isBlank).rtakeWhile isBlank, ?_,
      fun _ => List.mem_takeWhile_imp, fun _ => List.mem_rtakeWhile_imp⟩
    rw [trimChars_eq, List.append_assoc, List.rdropWhile_append_rtakeWhile,
      List.takeWhile_append_dropWhile]
  first := by
    intro c hc
    -- a first character that the second walk leaves is the one at which the first walk stopped
    have hprefix : trimChars cs <+: cs.dropWhile isBlank := List.rdropWhile_prefix _ _
    obtain ⟨after, hafter⟩ := hprefix
    have hhead : (cs.dropWhile isBlank).head? = some c := by
      rw [← hafter, List.head?_append, hc, Option.some_or]
    have hstop := List.head?_dropWhile_not isBlank cs
    rw [hhead] at hstop
    exact hstop
  last := by
    intro c hc
    have hne : trimChars cs ≠ [] := by
      intro hnil
      rw [hnil] at hc
      cases hc
    have hlast : (trimChars cs).getLast hne = c := (List.getLast_eq_iff_getLast?_eq_some hne).mpr hc
    rw [← hlast]
    exact Bool.eq_false_iff.mpr (List.rdropWhile_last_not isBlank _ hne)

/-- The second walk passes over white space that is put behind a text. -/
theorem rdropWhile_append_blank (cs : List Char) {after : List Char}
    (h : ∀ c ∈ after, isBlank c = true) :
    (cs ++ after).rdropWhile isBlank = cs.rdropWhile isBlank := by
  have hback : ∀ c ∈ after.reverse, isBlank c = true := fun c hc => h c (List.mem_reverse.mp hc)
  rw [List.rdropWhile, List.rdropWhile, List.reverse_append, List.dropWhile_append_of_pos hback]

/-- Both walks stop at the ends of a part that has no white space there. So there is one such part
only. -/
theorem trimChars_of_stripped (h : Stripped cs core) : trimChars cs = core := by
  obtain ⟨before, after, rfl, hbefore, hafter⟩ := h.around
  rw [trimChars_eq, List.append_assoc, List.dropWhile_append_of_pos hbefore]
  cases core with
  | nil =>
      -- the first walk has taken everything
      rw [List.nil_append, List.dropWhile_eq_nil_iff.mpr hafter]
      exact List.rdropWhile_nil isBlank
  | cons c rest =>
      have hfirst : ¬ isBlank c = true := by simp [h.first c rfl]
      rw [List.cons_append, List.dropWhile_cons_of_neg hfirst, ← List.cons_append,
        rdropWhile_append_blank _ hafter, List.rdropWhile_eq_self_iff]
      intro hne
      exact Bool.eq_false_iff.mp (h.last _ (List.getLast?_eq_some_getLast hne))

/-- A text without white space is left as it is. -/
theorem stripped_of_solid (h : ∀ c ∈ cs, isBlank c = false) : Stripped cs cs where
  around := ⟨[], [], by rw [List.nil_append, List.append_nil], nofun, nofun⟩
  first c hc := h c (List.mem_of_mem_head? hc)
  last c hc := h c (List.mem_of_getLast? hc)

/-- Trimming is the relation, so callers never look at the walks. -/
theorem trimChars_eq_iff : trimChars cs = core ↔ Stripped cs core := by
  constructor
  · rintro rfl
    exact stripped_trimChars cs
  · exact trimChars_of_stripped

end Text

end PluginKit
