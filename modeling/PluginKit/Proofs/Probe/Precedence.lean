import Mathlib.Data.List.Find
import PluginKit.Probe.Resolution

/-!
# `PluginKit.Proofs.Probe.Precedence`: who decides on the generation

A feature of the build fixes the generation. Without one the first release decides that a layer
names: the command line, the settings, the environment. Without a release the layout decides.
`decided` is that rule, in which an empty text names no release.

The program keeps to the rule except where an empty text is the uppermost one of the command line and
the settings. The layers are joined before empty texts are dropped, so such a text names no release
and still hides those below it.

* `decided`: the rule.
* `resolve_eq_decided`: the generation of a build, by the rule.
* `resolve_of_feature`, `resolve_of_no_feature`, `resolve_eq_error_iff`: its three outcomes.
* `version_resolve`: the generation of a resolution, by the rule and up to hidden releases.
-/

set_option autoImplicit false

namespace PluginKit

namespace Header.Version

/-- The generation of the first feature that is enabled, in the order of the table of features. -/
def ofFeatures? (lookup : Lookup) : Option Version :=
  (features.find? fun f => (nonEmpty lookup f.1).isSome).map Prod.snd

/-- The generation of a release. A text that is no release is an error here: it is never passed over
for the next layer. -/
def ofRelease? (text : String) : Except UnknownVersion Version :=
  match parse text with
  | some v => .ok v
  | none => .error ⟨text⟩

/-- The generation that a layout stands for. -/
def ofLayout (layout : Layout) : Version := if layout = .core54 then .v54 else .v57

/-- The rule: features first, then the first of some texts that is not empty, then the layout. The
texts are those of the layers, from above. -/
def decided (lookup : Lookup) (layout : Layout) (texts : List (Option String)) :
    Except UnknownVersion Version :=
  match ofFeatures? lookup with
  | some v => .ok v
  | none =>
    match texts.findSome? fun text => text.filter (· ≠ "") with
    | some text => ofRelease? text
    | none => .ok (ofLayout layout)

/-- A build without layers goes by the release of the environment, so for it the program is the
rule. -/
theorem resolve_eq_decided (lookup : Lookup) (layout : Layout) :
    resolve lookup layout = decided lookup layout [lookup "COLLECTD_VERSION"] := by
  have htexts : [lookup "COLLECTD_VERSION"].findSome? (fun text => text.filter (· ≠ ""))
      = nonEmpty lookup "COLLECTD_VERSION" := by
    unfold nonEmpty
    rw [List.findSome?_cons, List.findSome?_nil]
    cases (lookup "COLLECTD_VERSION").filter (· ≠ "") <;> rfl
  unfold resolve decided ofFeatures? ofRelease? ofLayout
  rw [htexts]
  cases features.find? fun f => (nonEmpty lookup f.1).isSome with
  | some f => rfl
  | none =>
      cases nonEmpty lookup "COLLECTD_VERSION" with
      | some text => rfl
      | none => rfl

/-- A feature fixes the generation. A release that is none does no harm then. -/
theorem resolve_of_feature {lookup : Lookup} {v : Version} (h : ofFeatures? lookup = some v)
    (layout : Layout) : resolve lookup layout = .ok v := by
  rw [resolve_eq_decided]
  unfold decided
  rw [h]

/-- Without a feature the environment's release decides, and without that the layout. -/
theorem resolve_of_no_feature {lookup : Lookup} (h : ofFeatures? lookup = none)
    (layout : Layout) :
    resolve lookup layout =
      match nonEmpty lookup "COLLECTD_VERSION" with
      | some text => ofRelease? text
      | none => .ok (ofLayout layout) := by
  rw [resolve_eq_decided]
  unfold decided nonEmpty
  rw [h, List.findSome?_cons, List.findSome?_nil]
  cases (lookup "COLLECTD_VERSION").filter (· ≠ "") with
  | some text => rfl
  | none => rfl

theorem ofRelease?_eq_ok_iff {text : String} {v : Version} :
    ofRelease? text = .ok v ↔ parse text = some v := by
  unfold ofRelease?
  cases parse text with
  | some w =>
      constructor
      · intro h
        exact congrArg some (Except.ok.inj h)
      · intro h
        exact congrArg Except.ok (Option.some.inj h)
  | none => exact ⟨nofun, nofun⟩

/-- A release is refused exactly when it is no release that the interface knows, and is named in the
error. -/
theorem ofRelease?_eq_error_iff {text : String} {e : UnknownVersion} :
    ofRelease? text = .error e ↔ e.text = text ∧ parse text = none := by
  unfold ofRelease?
  cases parse text with
  | some v => exact ⟨nofun, fun h => nomatch h.2⟩
  | none =>
      constructor
      · intro h
        exact ⟨(congrArg UnknownVersion.text (Except.error.inj h)).symm, rfl⟩
      · rintro ⟨rfl, -⟩
        rfl

/-- The one way for a build to fail: no feature is enabled, and the environment names a release that
is none. -/
theorem resolve_eq_error_iff {lookup : Lookup} {layout : Layout} {e : UnknownVersion} :
    resolve lookup layout = .error e ↔
      ofFeatures? lookup = none ∧ nonEmpty lookup "COLLECTD_VERSION" = some e.text ∧
        parse e.text = none := by
  cases hfeature : ofFeatures? lookup with
  | some v =>
      rw [resolve_of_feature hfeature]
      exact ⟨nofun, fun h => nomatch h.1⟩
  | none =>
      rw [resolve_of_no_feature hfeature]
      cases nonEmpty lookup "COLLECTD_VERSION" with
      | none => exact ⟨nofun, fun h => nomatch h.2.1⟩
      | some text =>
          rw [ofRelease?_eq_error_iff]
          constructor
          · rintro ⟨rfl, hparse⟩
            exact ⟨rfl, rfl, hparse⟩
          · rintro ⟨-, htext, hparse⟩
            obtain rfl := Option.some.inj htext
            exact ⟨rfl, hparse⟩

/-- Environments that answer alike for the features fix the same generation. -/
theorem ofFeatures?_congr {lookup other : Lookup} (h : ∀ f ∈ features, lookup f.1 = other f.1) :
    ofFeatures? lookup = ofFeatures? other := by
  unfold ofFeatures? nonEmpty
  have hfind : features.find? (fun f => ((lookup f.1).filter (· ≠ "")).isSome)
      = features.find? (fun f => ((other f.1).filter (· ≠ "")).isSome) := by
    apply List.find?_congr
    intro f hf
    simp only [h f hf]
  rw [hfind]

end Header.Version

namespace Probe

open Header (Lookup Flags UnknownVersion Version)
open Header.Version (decided ofFeatures?_congr resolve_eq_decided)

namespace Resolution

/-- The texts of the layers from above, without those that an empty one hides: below an empty text
of the command line or the settings nothing is seen. The layers are joined before empty texts are
dropped, and this says what that comes to. -/
def visible (settings : Settings) (overrides : Overrides) (lookup : Lookup) :
    List (Option String) :=
  if (overrides.version <|> settings.version) = some "" then []
  else [overrides.version, settings.version, lookup "COLLECTD_VERSION"]

/-- The features of a build are those of the environment, whatever release hides another: the
release of upper layers is put in the place of one variable, which is no feature. -/
theorem ofFeatures?_withVersion (lookup : Lookup) (text : Option String) :
    Version.ofFeatures? (withVersion lookup text) = Version.ofFeatures? lookup := by
  apply ofFeatures?_congr
  intro f hf
  -- no feature has the name of the release
  have hname : f.1 ≠ "COLLECTD_VERSION" := by
    simp only [Version.features, List.mem_cons, List.not_mem_nil, or_false] at hf
    rcases hf with rfl | rfl | rfl <;> decide
  exact if_neg hname

/-- The text that is seen in the place of the environment's is the first that is not empty, if an
empty one does not hide it. -/
theorem findSome?_visible (settings : Settings) (overrides : Overrides) (lookup : Lookup) :
    [withVersion lookup (overrides.version <|> settings.version) "COLLECTD_VERSION"].findSome?
        (fun text => text.filter (· ≠ ""))
      = (visible settings overrides lookup).findSome? fun text => text.filter (· ≠ "") := by
  unfold visible
  show [((overrides.version <|> settings.version) <|> lookup "COLLECTD_VERSION")].findSome? _ = _
  -- An empty text hides what is below it and then counts as none, on either side.
  cases hcommand : overrides.version with
  | some text =>
      by_cases hempty : text = ""
      · subst hempty
        simp
      · simp [hempty]
  | none =>
      cases hfile : settings.version with
      | some text =>
          by_cases hempty : text = ""
          · subst hempty
            simp
          · simp [hempty]
      | none => simp

/-- The generation goes by the rule, over all layers unless the uppermost text of the command line
and the settings is empty. Then it goes by the features and the layout alone. -/
theorem version_resolve (flags : Flags) (settings : Settings) (overrides : Overrides)
    (lookup : Lookup) :
    (resolve flags settings overrides lookup).map Resolution.version
      = decided lookup flags.layout (visible settings overrides lookup) := by
  have hbuild : (resolve flags settings overrides lookup).map Resolution.version
      = Version.resolve (withVersion lookup (overrides.version <|> settings.version))
          flags.layout := by
    unfold resolve
    cases Version.resolve _ flags.layout with
    | ok v => rfl
    | error e => rfl
  rw [hbuild, resolve_eq_decided]
  unfold decided
  rw [ofFeatures?_withVersion, findSome?_visible]

/-- An environment with a release in it and nothing else. -/
def releaseOnly (text : String) : Lookup := fun key =>
  if key = "COLLECTD_VERSION" then some text else none

/-- An empty text of the command line names no release, yet the environment's 5.4 is not seen below
it: the layout decides, though by the rule over all layers the generation is 5.4. -/
theorem version_resolve_empty_override :
    (resolve ⟨none, false⟩ Settings.initial ⟨none, false, some ""⟩ (releaseOnly "5.4")).map
        Resolution.version = .ok .v57 ∧
      decided (releaseOnly "5.4") (Flags.layout ⟨none, false⟩)
        [some "", Settings.initial.version, releaseOnly "5.4" "COLLECTD_VERSION"] = .ok .v54 := by
  constructor
  · rfl
  · rfl

end Resolution

end Probe

end PluginKit
