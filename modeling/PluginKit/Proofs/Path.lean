import Mathlib.Data.List.Basic
import PluginKit.Path

/-!
# `PluginKit.Proofs.Path`: spellings of a path

A path is compared by its components, so it may be spelled in many ways. A slash puts what is behind
it below what is before it (`components_append_slash`), and from there it follows which slashes and
dots can be left out.

* `same_iff`, `same_refl`, `same_symm`, `same_trans`: equality of paths.
* `same_doubled_slash`, `same_inner_dot`, `same_trailing_slash`: spellings of one path.
* `exists_join_eq`, `join_of_getLast?`: a path below another.
-/

set_option autoImplicit false

namespace PluginKit

namespace Path

/-! ### Equality -/

/-- Paths are the same if both or neither start at the root and their components are the same. This
is the comparison that roots are told apart with. -/
theorem same_iff {a b : String} :
    same a b = true ↔ isAbsolute a = isAbsolute b ∧ components a = components b := by
  unfold same
  rw [Bool.and_eq_true, beq_iff_eq, beq_iff_eq]

theorem same_refl (a : String) : same a a = true := same_iff.mpr ⟨rfl, rfl⟩

theorem same_symm {a b : String} (h : same a b = true) : same b a = true :=
  same_iff.mpr ⟨(same_iff.mp h).1.symm, (same_iff.mp h).2.symm⟩

theorem same_trans {a b c : String} (hab : same a b = true) (hbc : same b c = true) :
    same a c = true :=
  same_iff.mpr ⟨(same_iff.mp hab).1.trans (same_iff.mp hbc).1,
    (same_iff.mp hab).2.trans (same_iff.mp hbc).2⟩

theorem same_comm (a b : String) : same a b = same b a :=
  Bool.eq_iff_iff.mpr ⟨same_symm, same_symm⟩

/-! ### Slashes -/

theorem parts_ne_nil (path : String) : parts path ≠ [] := by
  unfold parts
  exact mt List.map_eq_nil_iff.mp (List.splitOnP_ne_nil _ _)

/-- A path comes apart at every slash, those that do nothing included; `components` leaves out the
parts that lead nowhere. -/
theorem parts_append_slash (a b : String) : parts (a ++ "/" ++ b) = parts a ++ parts b := by
  have hchars : (a ++ "/" ++ b).toList = a.toList ++ '/' :: b.toList := by simp
  unfold parts
  rw [hchars, List.splitOnP_append_cons _ _ (by decide), List.map_append]

/-- The first part is a step of its own if it leads somewhere or says that the path is relative. -/
theorem components_of_parts {path first : String} {rest : List String}
    (h : parts path = first :: rest) :
    components path = (if first = "." then ["."] else [first].filter isStep) ++ rest.filter isStep := by
  unfold components
  rw [h]
  split
  next heq =>
    obtain ⟨rfl, rfl⟩ := List.cons.inj heq
    rfl
  next hother =>
    rw [if_neg fun hdot => hother rest (by rw [hdot])]
    exact List.filter_append [first] rest

/-- What is behind a slash is below what is before it. A dot there leads nowhere. -/
theorem components_append_slash (a b : String) :
    components (a ++ "/" ++ b) = components a ++ (parts b).filter isStep := by
  cases hparts : parts a with
  | nil => exact absurd hparts (parts_ne_nil a)
  | cons first rest =>
      have hall : parts (a ++ "/" ++ b) = first :: (rest ++ parts b) := by
        rw [parts_append_slash, hparts, List.cons_append]
      rw [components_of_parts hparts, components_of_parts hall, List.filter_append,
        List.append_assoc]

theorem isAbsolute_append_slash (a b : String) :
    isAbsolute (a ++ "/" ++ b) = isAbsolute (a ++ "/") := by
  unfold isAbsolute
  cases ha : a.toList with
  | nil => simp [ha]
  | cons c rest => simp [ha]

/-- What is behind a slash matters only as far as it leads somewhere. The spelling laws are cases of
this. -/
theorem same_append_slash {a b c : String} (h : (parts b).filter isStep = (parts c).filter isStep) :
    same (a ++ "/" ++ b) (a ++ "/" ++ c) = true := by
  refine same_iff.mpr ⟨?_, ?_⟩
  · rw [isAbsolute_append_slash, isAbsolute_append_slash]
  · rw [components_append_slash, components_append_slash, h]

/-- One slash is as good as two, as the part between two of them is empty. -/
theorem same_doubled_slash (a b : String) : same (a ++ "//" ++ b) (a ++ "/" ++ b) = true := by
  have hslash : a ++ "//" ++ b = a ++ "/" ++ ("" ++ "/" ++ b) := String.toList_inj.mp (by simp)
  rw [hslash]
  exact same_append_slash (by rw [parts_append_slash, List.filter_append]; rfl)

/-- A dot between slashes can be left out. At the start of a path it cannot: there it says that the
path is relative, and `./a` is not the same as `a`. -/
theorem same_inner_dot (a b : String) : same (a ++ "/./" ++ b) (a ++ "/" ++ b) = true := by
  have hdot : a ++ "/./" ++ b = a ++ "/" ++ ("." ++ "/" ++ b) := String.toList_inj.mp (by simp)
  rw [hdot]
  exact same_append_slash (by rw [parts_append_slash, List.filter_append]; rfl)

/-- A slash at the end can be left out, unless it is all there is. -/
theorem same_trailing_slash {a : String} (h : a ≠ "") : same (a ++ "/") a = true := by
  have hend : a ++ "/" = a ++ "/" ++ "" := by simp
  refine same_iff.mpr ⟨?_, ?_⟩
  · unfold isAbsolute
    cases ha : a.toList with
    | nil => exact absurd (String.toList_eq_nil_iff.mp ha) h
    | cons c rest => simp [ha]
  · rw [hend, components_append_slash]
    exact List.append_nil _

/-! ### Paths below others -/

/-- A relative path is put behind the other one, with a slash between them if one is needed. None is
needed after a slash, nor where there is nothing to put the path behind. -/
theorem exists_join_eq (root : String) {part : String} (h : isAbsolute part = false) :
    ∃ slash, (slash = "" ∨ slash = "/") ∧ join root part = root ++ slash ++ part := by
  unfold join
  rw [h, Bool.false_or]
  split
  next hroot =>
    have hempty : root = "" := String.toList_eq_nil_iff.mp (List.isEmpty_iff.mp hroot)
    exact ⟨"", .inl rfl, by rw [hempty]; simp⟩
  next =>
    split
    · exact ⟨"", .inl rfl, by simp⟩
    · exact ⟨"/", .inr rfl, rfl⟩

/-- Behind a name there is always a slash to put. -/
theorem join_of_getLast? {root part : String} {c : Char} (h : isAbsolute part = false)
    (hlast : root.toList.getLast? = some c) (hslash : c ≠ '/') :
    join root part = root ++ "/" ++ part := by
  have hne : root.toList ≠ [] := by
    intro hnil
    rw [hnil] at hlast
    cases hlast
  unfold join
  simp [h, hne, hlast, hslash]

end Path

end PluginKit
