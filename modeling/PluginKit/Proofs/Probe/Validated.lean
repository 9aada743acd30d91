import PluginKit.Proofs.Probe.Precedence

/-!
# `PluginKit.Proofs.Probe.Validated`: what checked settings are good for

The check looks at the settings alone, while a resolution mixes them with the environment and the
command line. Settings that pass it can still do no harm there: whatever the other layers say, there
is a root to search, and a release that is refused is never theirs.

* `validate_eq_ok_iff`: what the check asks of settings, as `Valid`.
* `searchRoots_eq_nil_iff`: when there is no root to search.
* `Refused`: a release that stands in the way of a resolution, and the layer that named it.
* `validated_resolves`: the roots and the refusals of a resolution with checked settings.
-/

set_option autoImplicit false

namespace PluginKit

namespace Probe

open Header (Lookup Flags Layout UnknownVersion Version)

namespace Settings

/-- What the check asks for: a release that is one, a path that is one, a place to search, and a
level that is one. -/
structure Valid (s : Settings) : Prop where
  version : ∀ text, s.version = some text → (Version.parse text).isSome
  path : s.collectdPath ≠ some ""
  roots : s.searchRoots = [] → s.collectdPath.isSome
  level : (Log.Level.parse s.level).isSome

theorem versionFault?_eq_none_iff (s : Settings) :
    s.versionFault? = none ↔ ∀ text, s.version = some text → (Version.parse text).isSome := by
  unfold versionFault?
  cases s.version with
  | none => exact ⟨fun _ => nofun, fun _ => rfl⟩
  | some text => simp [Option.isSome_iff_ne_none]

/-- An empty path to the sources is a fault, no path is none. -/
theorem pathFault?_eq_none_iff (s : Settings) :
    s.pathFault? = none ↔ s.collectdPath ≠ some "" := by
  unfold pathFault?
  simp

/-- There has to be a place to search: roots, or a path to the sources. -/
theorem rootsFault?_eq_none_iff (s : Settings) :
    s.rootsFault? = none ↔ (s.searchRoots = [] → s.collectdPath.isSome) := by
  unfold rootsFault?
  cases s.collectdPath with
  | some path => simp
  | none => simp

theorem levelFault?_eq_none_iff (s : Settings) :
    s.levelFault? = none ↔ (Log.Level.parse s.level).isSome := by
  unfold levelFault?
  simp [Option.isSome_iff_ne_none]

/-- The check lets through what has none of the four faults. Warnings do not count. -/
theorem validate_eq_ok_iff (s : Settings) : s.validate = .ok () ↔ s.Valid := by
  have hfaults : s.validate = .ok () ↔ s.versionFault? = none ∧ s.pathFault? = none ∧
      s.rootsFault? = none ∧ s.levelFault? = none := by
    unfold validate
    cases s.versionFault? with
    | some e => simp
    | none =>
        cases s.pathFault? with
        | some e => simp
        | none =>
            cases s.rootsFault? with
            | some e => simp
            | none => cases s.levelFault? <;> simp
  rw [hfaults, versionFault?_eq_none_iff, pathFault?_eq_none_iff, rootsFault?_eq_none_iff,
    levelFault?_eq_none_iff]
  exact ⟨fun ⟨hversion, hpath, hroots, hlevel⟩ => ⟨hversion, hpath, hroots, hlevel⟩,
    fun h => ⟨h.version, h.path, h.roots, h.level⟩⟩

end Settings

/-! ### Roots -/

theorem addRoot_ne_nil (roots : List String) (root : String) : addRoot roots root ≠ [] := by
  unfold addRoot
  split
  · rename_i hsame
    rintro rfl
    exact absurd hsame (by simp)
  · simp

/-- No root is lost on the way, so nothing is left only where there was nothing. A root that is not
added equals one that is there. -/
theorem foldl_addRoot_eq_nil_iff (roots more : List String) :
    more.foldl addRoot roots = [] ↔ roots = [] ∧ more = [] := by
  induction more generalizing roots with
  | nil => simp
  | cons root more ih =>
      rw [List.foldl_cons, ih]
      simp [addRoot_ne_nil]

/-- There is nothing to search only if no layer has a root and the layout has no directories. -/
theorem searchRoots_eq_nil_iff (layout : Layout) (flags : Flags) (settings : Settings)
    (further : List String) :
    searchRoots layout flags settings further = [] ↔
      layout.includeDirs flags = [] ∧ settings.searchRoots = [] ∧ further = [] := by
  unfold searchRoots
  rw [foldl_addRoot_eq_nil_iff, List.append_eq_nil_iff]

/-- A path to the sources has directories of its own, whatever else the flags say. -/
theorem includeDirs_ne_nil {flags : Flags} (h : flags.collectdPath.isSome) :
    flags.layout.includeDirs flags ≠ [] := by
  obtain ⟨path, hpath⟩ := Option.isSome_iff_exists.mp h
  unfold Flags.layout Layout.includeDirs
  rw [if_pos h, hpath]
  exact List.cons_ne_nil _ _

/-- The path of the settings is hidden only by another one, and then there is that one. -/
theorem layeredFlags_path_isSome (env : Flags) {settings : Settings} (overrides : Overrides)
    (h : settings.collectdPath.isSome) :
    (layeredFlags env settings overrides).collectdPath.isSome := by
  obtain ⟨path, hpath⟩ := Option.isSome_iff_exists.mp h
  unfold layeredFlags
  rw [hpath]
  cases overrides.collectdPath with
  | some other => rfl
  | none => rfl

namespace Settings

/-- Either the settings have roots of their own, or their path gives the layout some. This is what
the third field of `Valid` is for. -/
theorem Valid.searchRoots_ne_nil {settings : Settings} (h : settings.Valid) (env : Flags)
    (overrides : Overrides) (further : List String) :
    Probe.searchRoots (layeredFlags env settings overrides).layout
      (layeredFlags env settings overrides) settings further ≠ [] := by
  intro hnone
  obtain ⟨hdirs, hroots, -⟩ := (searchRoots_eq_nil_iff _ _ _ _).mp hnone
  exact includeDirs_ne_nil (layeredFlags_path_isSome env overrides (h.roots hroots)) hdirs

end Settings

/-! ### Releases -/

namespace Resolution

/-- A resolution fails where the version does, and nowhere else. -/
theorem resolve_eq_error_iff {flags : Flags} {settings : Settings} {overrides : Overrides}
    {lookup : Lookup} {e : UnknownVersion} :
    resolve flags settings overrides lookup = .error e ↔
      Version.resolve (withVersion lookup (overrides.version <|> settings.version)) flags.layout
        = .error e := by
  unfold resolve
  cases Version.resolve _ flags.layout with
  | ok v => exact ⟨nofun, nofun⟩
  | error other =>
      constructor
      · intro h
        exact congrArg _ (Except.error.inj h)
      · intro h
        exact congrArg _ (Except.error.inj h)

/-- A release that no feature makes irrelevant and that is none, from the command line, or from the
environment where neither the command line nor the settings name one. Releases of checked settings
do not occur. -/
structure Refused (settings : Settings) (overrides : Overrides) (lookup : Lookup)
    (text : String) : Prop where
  undecided : Version.ofFeatures? lookup = none
  nonempty : text ≠ ""
  unknown : Version.parse text = none
  origin : overrides.version = some text ∨
    overrides.version = none ∧ settings.version = none ∧ lookup "COLLECTD_VERSION" = some text

end Resolution

/-- The release that is seen in the place of the environment's. An empty one hides others and is not
seen itself. -/
theorem nonEmpty_withVersion_eq_some_iff {lookup : Lookup} {version : Option String}
    {text : String} :
    Header.nonEmpty (Resolution.withVersion lookup version) "COLLECTD_VERSION" = some text ↔
      (version <|> lookup "COLLECTD_VERSION") = some text ∧ text ≠ "" := by
  unfold Header.nonEmpty Resolution.withVersion
  rw [if_pos rfl, Option.filter_eq_some_iff, decide_eq_true_iff]

namespace Settings

open Resolution (withVersion Refused)

/-- A release of checked settings is never refused, and hides the environment's. -/
theorem Valid.refused_iff {settings : Settings} (h : settings.Valid) {overrides : Overrides}
    {lookup : Lookup} {text : String} :
    Refused settings overrides lookup text ↔
      Version.ofFeatures? lookup = none ∧
        Header.nonEmpty (withVersion lookup (overrides.version <|> settings.version))
          "COLLECTD_VERSION" = some text ∧
        Version.parse text = none := by
  rw [nonEmpty_withVersion_eq_some_iff]
  constructor
  · rintro ⟨hundecided, hnonempty, hunknown, horigin⟩
    refine ⟨hundecided, ⟨?_, hnonempty⟩, hunknown⟩
    rcases horigin with hcommand | ⟨hcommand, hsettings, henv⟩
    · simp [hcommand]
    · simp [hcommand, hsettings, henv]
  · rintro ⟨hundecided, ⟨hseen, hnonempty⟩, hunknown⟩
    refine ⟨hundecided, hnonempty, hunknown, ?_⟩
    cases hcommand : overrides.version with
    | some other => exact .inl (by simpa [hcommand] using hseen)
    | none =>
        cases hsettings : settings.version with
        | some other =>
            have hother : other = text := by simpa [hcommand, hsettings] using hseen
            have hknown := h.version other hsettings
            rw [hother, hunknown] at hknown
            exact absurd hknown (by simp)
        | none => exact .inr ⟨rfl, rfl, by simpa [hcommand, hsettings] using hseen⟩

/-- With settings that pass the check there is always a root to search, and a resolution fails
exactly when the command line names a release that is none, or the environment does and neither the
command line nor the settings name any. -/
theorem validated_resolves {settings : Settings} (hvalid : settings.validate = .ok ())
    (lookup : Lookup) (overrides : Overrides) (further : List String) :
    let flags := layeredFlags (Flags.ofLookup lookup) settings overrides
    Probe.searchRoots flags.layout flags settings further ≠ [] ∧
      ∀ e, Resolution.resolve flags settings overrides lookup = .error e ↔
        Refused settings overrides lookup e.text := by
  intro flags
  have h := (validate_eq_ok_iff settings).mp hvalid
  refine ⟨h.searchRoots_ne_nil _ overrides further, fun e => ?_⟩
  rw [Resolution.resolve_eq_error_iff, Version.resolve_eq_error_iff, h.refused_iff,
    Resolution.ofFeatures?_withVersion]

/-- Settings without roots that pass the check, below a command line with a release that is none. -/
theorem validated_resolves_sources :
    let settings : Settings :=
      { initial with searchRoots := [], collectdPath := some "/src", version := some "5.12" }
    settings.validate = .ok () ∧
      Probe.searchRoots .sourceTree ⟨some "/src", false⟩ settings [] ≠ [] ∧
      Resolution.resolve ⟨some "/src", false⟩ settings ⟨none, false, some "six"⟩
        (Resolution.releaseOnly "5.4") = .error ⟨"six"⟩ := by
  intro settings
  have hvalid : settings.validate = .ok () := by decide
  obtain ⟨hroots, hfails⟩ := validated_resolves hvalid (Resolution.releaseOnly "5.4")
    ⟨none, false, some "six"⟩ []
  refine ⟨hvalid, hroots, (hfails ⟨"six"⟩).mpr ?_⟩
  exact { undecided := rfl, nonempty := by decide, unknown := by decide, origin := .inl rfl }

end Settings

end Probe

end PluginKit
