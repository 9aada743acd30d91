import PluginKit.Proofs.Probe.Precedence

/-!
# `PluginKit.Proofs.Header.Alias`: two ways to ask for 5.4

A build asks for the 5.4 headers by a feature or by a variable that is an alias of the feature. The
flags do not tell them apart, so the layout is the same. The generation is not: the feature fixes
it whatever else is set, and the alias has a say only through its layout, which a release of the
environment goes before and a path to the sources replaces.

* `Alternatives`: two environments that ask for 5.4, one in each way, and are otherwise alike.
* `resolve_byFeature`, `resolve_byAlias_eq_iff`: the generation of the one, and when it is that of
  the other.
* `same_layout_and_generation_iff`: both parts together.
* `alias_yields_to_release`: an environment where the generations differ.
-/

set_option autoImplicit false

namespace PluginKit

namespace Header

open Version (ofFeatures? ofRelease? ofLayout resolve_of_feature resolve_of_no_feature)

/-- Two environments that ask for 5.4, one by the feature alone and one by the alias alone. All
other variables agree, so a difference comes from the way of asking. -/
structure Alternatives (byFeature byAlias : Lookup) : Prop where
  feature_set : (nonEmpty byFeature "CARGO_FEATURE_COLLECTD_54").isSome
  feature_alone : nonEmpty byFeature "COLLECTD_54" = none
  alias_set : (nonEmpty byAlias "COLLECTD_54").isSome
  alias_alone : nonEmpty byAlias "CARGO_FEATURE_COLLECTD_54" = none
  elsewhere : ∀ key, key ≠ "CARGO_FEATURE_COLLECTD_54" → key ≠ "COLLECTD_54" →
    byFeature key = byAlias key

namespace Version

/-- The generation of the features for releases after 5.4. They go before the one for 5.4. -/
def newerFeature? (lookup : Lookup) : Option Version :=
  if (nonEmpty lookup "CARGO_FEATURE_COLLECTD_57").isSome then some .v57
  else if (nonEmpty lookup "CARGO_FEATURE_COLLECTD_55").isSome then some .v55
  else none

/-- The feature for 5.4 comes after the newer ones. -/
theorem ofFeatures?_eq (lookup : Lookup) :
    ofFeatures? lookup = (newerFeature? lookup).or
      (if (nonEmpty lookup "CARGO_FEATURE_COLLECTD_54").isSome then some .v54 else none) := by
  unfold ofFeatures? newerFeature? features
  rw [List.find?_cons, List.find?_cons, List.find?_cons, List.find?_nil]
  cases (nonEmpty lookup "CARGO_FEATURE_COLLECTD_57").isSome with
  | true => rfl
  | false =>
      cases (nonEmpty lookup "CARGO_FEATURE_COLLECTD_55").isSome with
      | true => rfl
      | false =>
          cases (nonEmpty lookup "CARGO_FEATURE_COLLECTD_54").isSome with
          | true => rfl
          | false => rfl

/-- What the alias stands for is left alone by the rest of an environment: a newer feature decides
in any case, or the release is one of 5.4, or there is neither a release nor a path to the
sources. -/
def Undisturbed (lookup : Lookup) : Prop :=
  (newerFeature? lookup).isSome ∨
    match nonEmpty lookup "COLLECTD_VERSION" with
    | some release => parse release = some .v54
    | none => nonEmpty lookup "COLLECTD_PATH" = none

end Version

open Version (newerFeature? ofFeatures?_eq Undisturbed)

namespace Alternatives

variable {byFeature byAlias : Lookup}

/-- Variables other than the two say the same in both environments. -/
theorem nonEmpty_eq (h : Alternatives byFeature byAlias) (key : String)
    (hfeature : key ≠ "CARGO_FEATURE_COLLECTD_54") (halias : key ≠ "COLLECTD_54") :
    nonEmpty byFeature key = nonEmpty byAlias key := by
  unfold nonEmpty
  rw [h.elsewhere key hfeature halias]

/-- The flags do not show which way was taken, so neither does anything that is decided by flags. -/
theorem flags_eq (h : Alternatives byFeature byAlias) :
    Flags.ofLookup byAlias = Flags.ofLookup byFeature := by
  unfold Flags.ofLookup
  rw [h.nonEmpty_eq "COLLECTD_PATH" (by decide) (by decide), h.feature_set, h.alias_set,
    Bool.true_or, Bool.or_true]

/-- A newer feature is enabled in both environments or in neither. -/
theorem newerFeature?_eq (h : Alternatives byFeature byAlias) :
    newerFeature? byFeature = newerFeature? byAlias := by
  unfold newerFeature?
  rw [h.nonEmpty_eq "CARGO_FEATURE_COLLECTD_57" (by decide) (by decide),
    h.nonEmpty_eq "CARGO_FEATURE_COLLECTD_55" (by decide) (by decide)]

/-- The feature means 5.4 unless a newer one is enabled, for any layout. Neither the release nor the
layout is looked at. -/
theorem resolve_byFeature (h : Alternatives byFeature byAlias) (layout : Layout) :
    Version.resolve byFeature layout = .ok ((newerFeature? byAlias).getD .v54) := by
  apply resolve_of_feature
  rw [ofFeatures?_eq, if_pos h.feature_set, h.newerFeature?_eq]
  cases newerFeature? byAlias with
  | some v => rfl
  | none => rfl

/-- A layout that is chosen with the alias stands for 5.4 unless there is a path to the sources,
which decides the layout before the alias does. -/
theorem ofLayout_eq_iff (h : Alternatives byFeature byAlias) :
    ofLayout (Flags.ofLookup byAlias).layout = .v54 ↔ nonEmpty byAlias "COLLECTD_PATH" = none := by
  unfold ofLayout Flags.layout Flags.ofLookup
  rw [h.alias_set, Bool.or_true, if_pos rfl]
  cases nonEmpty byAlias "COLLECTD_PATH" with
  | some path => exact ⟨nofun, nofun⟩
  | none => exact ⟨fun _ => rfl, fun _ => rfl⟩

/-- The alias means what the feature means where nothing else has a say. -/
theorem resolve_byAlias_eq_iff (h : Alternatives byFeature byAlias) :
    Version.resolve byAlias (Flags.ofLookup byAlias).layout
        = .ok ((newerFeature? byAlias).getD .v54) ↔ Undisturbed byAlias := by
  have hfeatures : ofFeatures? byAlias = newerFeature? byAlias := by
    rw [ofFeatures?_eq, h.alias_alone]
    exact Option.or_none
  -- To the version the alias is no feature: a newer feature decides, then the release, then
  -- the layout.
  unfold Undisturbed
  cases hnewer : newerFeature? byAlias with
  | some v =>
      rw [resolve_of_feature (hfeatures.trans hnewer)]
      exact ⟨fun _ => .inl rfl, fun _ => rfl⟩
  | none =>
      rw [resolve_of_no_feature (hfeatures.trans hnewer), Option.getD_none, Option.isSome_none]
      cases nonEmpty byAlias "COLLECTD_VERSION" with
      | none =>
          have hlayout := h.ofLayout_eq_iff
          simp only [Except.ok.injEq, Bool.false_eq_true, false_or]
          exact hlayout
      | some release =>
          have hrelease : ofRelease? release = .ok .v54 ↔ Version.parse release = some .v54 :=
            Version.ofRelease?_eq_ok_iff
          simp only [Bool.false_eq_true, false_or]
          exact hrelease

/-- Both ways select the same layout. They select the same generation exactly where nothing else in
the environment has a say, since the feature means 5.4 unless a newer one is enabled, whatever the
release and the layout are. -/
theorem same_layout_and_generation_iff (h : Alternatives byFeature byAlias) :
    (Flags.ofLookup byAlias).layout = (Flags.ofLookup byFeature).layout ∧
      Version.resolve byFeature (Flags.ofLookup byFeature).layout
        = .ok ((newerFeature? byAlias).getD .v54) ∧
      (Version.resolve byAlias (Flags.ofLookup byAlias).layout
          = Version.resolve byFeature (Flags.ofLookup byFeature).layout ↔
        Undisturbed byAlias) := by
  refine ⟨congrArg Flags.layout h.flags_eq, h.resolve_byFeature _, ?_⟩
  rw [h.resolve_byFeature]
  exact h.resolve_byAlias_eq_iff

end Alternatives

/-- An environment with one way to ask for 5.4, and a release besides. -/
def askingFor54 (key release : String) : Lookup := fun k =>
  if k = key then some "1" else if k = "COLLECTD_VERSION" then some release else none

theorem alternatives_askingFor54 (release : String) :
    Alternatives (askingFor54 "CARGO_FEATURE_COLLECTD_54" release)
      (askingFor54 "COLLECTD_54" release) where
  feature_set := rfl
  feature_alone := rfl
  alias_set := rfl
  alias_alone := rfl
  elsewhere key hfeature halias := by
    unfold askingFor54
    rw [if_neg hfeature, if_neg halias]

/-- With a release of 5.4 besides, the alias is as good as the feature. -/
theorem same_generation_beside_release :
    Alternatives (askingFor54 "CARGO_FEATURE_COLLECTD_54" "5.4.1")
        (askingFor54 "COLLECTD_54" "5.4.1") ∧
      Version.resolve (askingFor54 "COLLECTD_54" "5.4.1") .core54
        = Version.resolve (askingFor54 "CARGO_FEATURE_COLLECTD_54" "5.4.1") .core54 :=
  ⟨alternatives_askingFor54 _,
    (Alternatives.same_layout_and_generation_iff (alternatives_askingFor54 "5.4.1")).2.2.mpr
      (.inr rfl)⟩

/-- A release of 5.7 goes before the alias and not before the feature: the 5.4 headers are read with
the records of 5.7. -/
theorem alias_yields_to_release :
    Alternatives (askingFor54 "CARGO_FEATURE_COLLECTD_54" "5.7") (askingFor54 "COLLECTD_54" "5.7") ∧
      (Flags.ofLookup (askingFor54 "COLLECTD_54" "5.7")).layout = .core54 ∧
      Version.resolve (askingFor54 "COLLECTD_54" "5.7") .core54 = .ok .v57 ∧
      Version.resolve (askingFor54 "CARGO_FEATURE_COLLECTD_54" "5.7") .core54 = .ok .v54 := by
  refine ⟨alternatives_askingFor54 "5.7", ?_, ?_, ?_⟩
  · rfl
  · rfl
  · rfl

end Header

end PluginKit
