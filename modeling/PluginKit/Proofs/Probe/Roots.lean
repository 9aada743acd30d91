import Mathlib.Data.List.Basic
import Mathlib.Data.List.Induction
import PluginKit.Probe.Resolution
import PluginKit.Proofs.Path

/-!
# `PluginKit.Proofs.Probe.Roots`: search roots without repeats

The directories of the layout, the roots of the settings and those of the command line are joined to
one list, and a root is left out that some spelling of it comes before. `unrepeated` says so root by
root, by what stands before it in the whole list. Roots are added one at a time, and the directories
of the layout are not looked at at all: they are different for every path to the sources.

* `unrepeated`: the roots that no earlier one equals.
* `any_same_unrepeated`, `pairwise_unrepeated`, `first_of_mem_unrepeated`: what is kept.
* `foldl_addRoot_eq`, `includeDirs_eq_unrepeated`: adding roots to those of a layout.
* `searchRoots_merge_in_order`: the search roots, and the spellings of a path.
-/

set_option autoImplicit false

namespace PluginKit

namespace Probe

open Header (Flags Layout)

/-- Whether no earlier root of the list equals the one at a place. Equality is that of paths, not of
spellings. -/
def isFirst (roots : List String) (place : String × Nat) : Bool :=
  !(roots.take place.2).any (Path.same place.1)

/-- The roots that no earlier one of the list equals, in their order. It looks at the whole list,
and not at what was kept of it. -/
def unrepeated (roots : List String) : List String :=
  (roots.zipIdx.filter (isFirst roots)).map Prod.fst

/-- One more root is kept unless one before it equals it. That may be one that was not kept
itself. -/
theorem unrepeated_concat (roots : List String) (root : String) :
    unrepeated (roots ++ [root])
      = if roots.any (Path.same root) then unrepeated roots else unrepeated roots ++ [root] := by
  -- a further root changes nothing for those before it
  have hbefore : roots.zipIdx.filter (isFirst (roots ++ [root]))
      = roots.zipIdx.filter (isFirst roots) := by
    refine List.filter_congr fun place hplace => ?_
    have hle : place.2 ≤ roots.length := Nat.le_of_lt (List.snd_lt_of_mem_zipIdx hplace)
    rw [isFirst, isFirst, List.take_append_of_le_length hle]
  have hlast : isFirst (roots ++ [root]) (root, roots.length) = !roots.any (Path.same root) := by
    rw [isFirst, List.take_left]
  rw [unrepeated, unrepeated, List.zipIdx_append, List.filter_append, hbefore, Nat.zero_add,
    List.zipIdx_singleton, List.map_append]
  cases hany : roots.any (Path.same root) with
  | true => simp [hlast, hany]
  | false => simp [hlast, hany]

/-- What equals a root of a list equals one that is kept. For this equality of paths has to be
passed on from one root to the next. -/
theorem any_same_unrepeated (roots : List String) (root : String) :
    (unrepeated roots).any (Path.same root) = roots.any (Path.same root) := by
  induction roots using List.reverseRecOn with
  | nil => rfl
  | append_singleton roots last ih =>
      rw [unrepeated_concat, List.any_append]
      cases hany : roots.any (Path.same last) with
      | false => rw [if_neg (by decide), List.any_append, ih]
      | true =>
          rw [if_pos rfl, ih]
          -- what equals the last one equals the one that it repeats
          cases hlast : Path.same root last with
          | false => simp [hlast]
          | true =>
              obtain ⟨earlier, hearlier, hsame⟩ := List.any_eq_true.mp hany
              have hroot : roots.any (Path.same root) = true :=
                List.any_eq_true.mpr ⟨earlier, hearlier, Path.same_trans hlast hsame⟩
              rw [hroot, Bool.true_or]

/-- No two of the roots that are kept are equal. -/
theorem pairwise_unrepeated (roots : List String) :
    (unrepeated roots).Pairwise fun a b => Path.same a b = false := by
  induction roots using List.reverseRecOn with
  | nil => exact .nil
  | append_singleton roots last ih =>
      rw [unrepeated_concat]
      cases hany : roots.any (Path.same last) with
      | true => exact ih
      | false =>
          rw [if_neg (by decide)]
          refine List.pairwise_append.mpr ⟨ih, List.pairwise_singleton .., fun kept hkept => ?_⟩
          rw [← any_same_unrepeated, List.any_eq_false] at hany
          rw [List.forall_mem_singleton, Path.same_comm]
          exact Bool.eq_false_iff.mpr (hany kept hkept)

/-- A root is kept as it is spelled where it first occurs. -/
theorem first_of_mem_unrepeated {roots : List String} {kept : String}
    (h : kept ∈ unrepeated roots) :
    ∃ before after, roots = before ++ kept :: after ∧
      ∀ earlier ∈ before, Path.same kept earlier = false := by
  obtain ⟨⟨root, i⟩, hplace, rfl⟩ := List.mem_map.mp h
  obtain ⟨hmem, hfirst⟩ := List.mem_filter.mp hplace
  obtain ⟨hi, hroot⟩ := List.getElem?_eq_some_iff.mp (List.mem_zipIdx_iff_getElem?.mp hmem)
  refine ⟨roots.take i, roots.drop (i + 1), ?_, fun earlier hearlier => ?_⟩
  · rw [← hroot, ← List.drop_eq_getElem_cons hi, List.take_append_drop]
  · rw [isFirst, Bool.not_eq_true'] at hfirst
    exact Bool.eq_false_iff.mpr (List.any_eq_false.mp hfirst earlier hearlier)

/-- What is kept of some roots is kept of more roots, and before the others. So further roots never
move those of the layout. -/
theorem unrepeated_prefix (roots more : List String) :
    unrepeated roots <+: unrepeated (roots ++ more) := by
  induction more using List.reverseRecOn with
  | nil => simp
  | append_singleton more last ih =>
      rw [← List.append_assoc, unrepeated_concat]
      split
      · exact ih
      · exact ih.trans (List.prefix_append _ _)

/-- Adding roots one at a time leaves out those that are there. The loop compares with what it has
kept, which by `any_same_unrepeated` is as good as comparing with all. -/
theorem foldl_addRoot_eq (roots : List String) : roots.foldl addRoot [] = unrepeated roots := by
  induction roots using List.reverseRecOn with
  | nil => rfl
  | append_singleton roots last ih =>
      rw [List.foldl_append, ih, List.foldl_cons, List.foldl_nil, addRoot, any_same_unrepeated,
        unrepeated_concat]

/-! ### The directories of a layout -/

/-- The second directory of a source checkout is below the first one, and so it is another one,
whatever the path to the sources is. -/
theorem same_src_daemon (root : String) :
    Path.same (Path.join (Path.join root "src") "daemon") (Path.join root "src") = false := by
  have hrelative : Path.isAbsolute "src" = false := by decide
  obtain ⟨slash, -, hjoin⟩ := Path.exists_join_eq root hrelative
  have hlast : (Path.join root "src").toList.getLast? = some 'c' := by
    rw [hjoin, String.toList_append, List.getLast?_append]
    rfl
  rw [Path.join_of_getLast? (by decide) hlast (by decide)]
  refine Bool.eq_false_iff.mpr fun hsame => ?_
  -- the second directory has one component more than the first one
  have hlength := congrArg List.length (Path.same_iff.mp hsame).2
  rw [Path.components_append_slash, List.length_append] at hlength
  have hstep : ((Path.parts "daemon").filter Path.isStep).length = 1 := by decide
  omega

/-- The directories of a layout do not repeat each other, so that they can be counted among the
roots although the loop does not look at them. -/
theorem includeDirs_eq_unrepeated (layout : Layout) (flags : Flags) :
    layout.includeDirs flags = unrepeated (layout.includeDirs flags) := by
  unfold Layout.includeDirs
  split
  next root hpath =>
    have hpair : unrepeated ([Path.join root "src"] ++ [Path.join (Path.join root "src") "daemon"])
        = [Path.join root "src"] ++ [Path.join (Path.join root "src") "daemon"] := by
      rw [unrepeated_concat, List.any_cons, same_src_daemon]
      rfl
    exact hpair.symm
  next => rfl

/-- The search roots are the directories of the layout, then the roots of the settings, then further
ones, each of them unless an earlier one equals it as a path. So the layout's directories are all
there, no two search roots are equal, none is lost, and each is spelled as where it first occurs.
Slashes beside others, dots between slashes and a slash at the end make no difference. -/
theorem searchRoots_merge_in_order (layout : Layout) (flags : Flags) (settings : Settings)
    (further : List String) :
    let given := layout.includeDirs flags ++ settings.searchRoots ++ further
    let roots := searchRoots layout flags settings further
    roots = unrepeated given ∧
    layout.includeDirs flags <+: roots ∧
    roots.Pairwise (fun a b => Path.same a b = false) ∧
    (∀ root ∈ given, ∃ kept ∈ roots, Path.same root kept = true) ∧
    (∀ kept ∈ roots, ∃ before after, given = before ++ kept :: after ∧
      ∀ earlier ∈ before, Path.same kept earlier = false) ∧
    (∀ a b, Path.same (a ++ "//" ++ b) (a ++ "/" ++ b) = true) ∧
    (∀ a b, Path.same (a ++ "/./" ++ b) (a ++ "/" ++ b) = true) ∧
    ∀ a, a ≠ "" → Path.same (a ++ "/") a = true := by
  intro given roots
  have hroots : roots = unrepeated given := by
    -- the directories of the layout are what comes of adding them, so all roots are added in a row
    show (settings.searchRoots ++ further).foldl addRoot (layout.includeDirs flags) = _
    rw [includeDirs_eq_unrepeated, ← foldl_addRoot_eq, ← List.foldl_append, foldl_addRoot_eq,
      ← List.append_assoc]
  rw [hroots]
  refine ⟨rfl, ?_, pairwise_unrepeated given, fun root hroot => ?_,
    fun kept hkept => first_of_mem_unrepeated hkept, Path.same_doubled_slash, Path.same_inner_dot,
    fun a => Path.same_trailing_slash⟩
  · have hprefix := unrepeated_prefix (layout.includeDirs flags) (settings.searchRoots ++ further)
    rw [← includeDirs_eq_unrepeated, ← List.append_assoc] at hprefix
    exact hprefix
  · have hany : given.any (Path.same root) = true :=
      List.any_eq_true.mpr ⟨root, hroot, Path.same_refl root⟩
    rw [← any_same_unrepeated] at hany
    exact List.any_eq_true.mp hany

/-- Roots of one list that repeat each other and those of another one. -/
theorem searchRoots_merge_in_order_spellings :
    let settings : Settings :=
      { Settings.initial with searchRoots := ["/src/collectd/./src/", "/usr//include", "a"] }
    let flags : Flags := { collectdPath := some "/src/collectd", collectd54 := false }
    let roots := ["/src/collectd/src", "/src/collectd/src/daemon", "/usr//include", "a", "b"]
    searchRoots .sourceTree flags settings ["a/", "/usr/include/.", "b"] = roots ∧
    (∃ kept ∈ roots, Path.same "/usr/include/." kept = true) ∧
    (∃ before after, Layout.sourceTree.includeDirs flags ++ settings.searchRoots
        ++ ["a/", "/usr/include/.", "b"] = before ++ "a" :: after ∧
      ∀ earlier ∈ before, Path.same "a" earlier = false) ∧
    "a" ≠ "" ∧ Path.same ("a" ++ "/") "a" = true := by
  intro settings flags roots
  have hroots : searchRoots .sourceTree flags settings ["a/", "/usr/include/.", "b"] = roots := by
    decide +kernel
  obtain ⟨-, -, -, hkept, hfirst, -, -, hslash⟩ :=
    searchRoots_merge_in_order .sourceTree flags settings ["a/", "/usr/include/.", "b"]
  rw [hroots] at hkept hfirst
  exact ⟨hroots, hkept _ (by decide +kernel), hfirst _ (by decide), by decide,
    hslash _ (by decide)⟩

end Probe

end PluginKit
