import PluginKit.Proofs.Probe.Visit

/-!
# `PluginKit.Proofs.Probe.Check`: looking for headers

The headers of a layout are looked for under a row of roots. The earliest root that has a header
wins, whatever the later ones have, and different headers may come from different roots. Where a
header is under no root, the search is in vain and names it. A check prints what came of the search.

* `Layout.located`: what comes of the search for the headers of a layout.
* `Checks`: the command lines that are checks for some layout below some roots.
* `Printed.Tells`, `tells_of_checks`: what a check leaves behind.
* `located_earliest_and_told`: the outcome of the search by the roots, and what is printed of it.
-/

set_option autoImplicit false

namespace PluginKit

/-- What comes of a search for the headers of a layout, where files are as `isFile` says. -/
def Header.Layout.located (isFile : String → Bool) (layout : Layout) (roots : List String) :
    Except Missing (List String) :=
  ((layout.locate (noting isFile) roots).run []).1

theorem Header.Layout.located_eq (isFile : String → Bool) (layout : Layout) (roots : List String) :
    layout.located isFile roots = found isFile roots layout.includes := by
  rw [located, locate, locateAll_run]

namespace Probe

open Header (Lookup Flags Layout Missing)
open Header.Layout (Earliest found)

/-- A command line is a check, and its settings, its flags and the environment say for which layout
and below which roots. The search itself does not know where the roots come from. -/
inductive Checks (disk : Disk) (env : Lookup) (arguments : List String) :
    Layout → List String → Prop
  | intro {config : String} {debug : Bool} {overrides : Overrides} {further : List String}
      {settings : Settings} {flags : Flags} {resolution : Resolution}
      (parsed : Invocation.parse arguments = some ⟨config, debug, .check overrides further⟩)
      (loaded : disk.settings config = .ok settings)
      (layered : layeredFlags (Flags.ofLookup env) settings overrides = flags)
      (resolves : Resolution.resolve flags settings overrides env = .ok resolution) :
      Checks disk env arguments flags.layout (searchRoots flags.layout flags settings further)

/-- What a check leaves behind that has come to a result about some number of headers: their paths,
or nothing but a complaint about the one that is missing. What the log says goes before it. -/
def Printed.Tells (p : Printed) (count : Nat) : Except Missing (List String) → Prop
  | .ok paths => p.exit = 0 ∧
      p.stdout = String.join (paths.map fun path => "found: " ++ path ++ "\n") ++
        ("✓ All " ++ toString count ++ " headers found\n")
  | .error missing => p.exit = 1 ∧ p.stdout = "" ∧
      ∃ log, p.stderr = log ++ ("✗ " ++ missing.message ++ "\n")

/-- Printing a result tells it, whatever was logged before it. -/
theorem Run.tells_ofSearch {start : List Output} (h : Quiet start) (env : Lookup) (level : String)
    (count : Nat) (result : Except Missing (List String)) :
    ((ofSearch start count result).shown env level).Tells count result := by
  cases result with
  | ok paths =>
      refine ⟨rfl, ?_⟩
      rw [ofSearch, shown_stdout, List.map_append, List.map_append, String.join_append,
        String.join_append, h.join, List.map_map]
      simp [Function.comp_def, Output.stdout]
  | error missing => exact ⟨rfl, shown_stdout_err h .., exists_shown_stderr ..⟩

/-- A check tells what comes of its search, which asks the disk and nobody else. -/
theorem tells_of_checks {disk : Disk} {env : Lookup} {arguments : List String} {layout : Layout}
    {roots : List String} (h : Checks disk env arguments layout roots) :
    (disk.visit env arguments).1.Tells layout.includes.length (layout.located disk.isFile roots) := by
  obtain ⟨parsed, loaded, layered, resolves⟩ := h
  obtain ⟨start, hstart, hvisit⟩ := visit_check parsed loaded layered rfl resolves
  have hcount : (Resolution.includes _) = _ := congrArg Layout.includes (resolve_ok_layout resolves).1
  rw [hvisit, Layout.located_eq, hcount]
  exact Run.tells_ofSearch hstart ..

/-- A search succeeds exactly when every header of the layout is a file below some root, with the path
below the earliest such root for each header in their order. Otherwise it names the first header that
is below no root, and all roots. A check for the layout prints these paths and succeeds, or it prints
no path and fails. -/
theorem located_earliest_and_told (disk : Disk) (layout : Layout) (roots : List String) :
    (∀ paths, layout.located disk.isFile roots = .ok paths ↔
      List.Forall₂ (Earliest disk.isFile roots) layout.includes paths) ∧
    ((∃ paths, layout.located disk.isFile roots = .ok paths) ↔
      ∀ header ∈ layout.includes, ∃ root ∈ roots, disk.isFile (Path.join root header) = true) ∧
    (∀ missing, layout.located disk.isFile roots = .error missing ↔ missing.searched = roots ∧
      ∃ before after, layout.includes = before ++ missing.header :: after ∧
        (∀ root ∈ roots, disk.isFile (Path.join root missing.header) = false) ∧
        ∀ header ∈ before, ∃ root ∈ roots, disk.isFile (Path.join root header) = true) ∧
    ∀ env arguments, Checks disk env arguments layout roots →
      (disk.visit env arguments).1.Tells layout.includes.length
        (layout.located disk.isFile roots) := by
  simp only [Layout.located_eq]
  refine ⟨fun _ => Layout.found_eq_ok_iff, Layout.exists_found_eq_ok_iff,
    fun _ => Layout.found_eq_error_iff, fun env arguments h => ?_⟩
  rw [← Layout.located_eq]
  exact tells_of_checks h

/-- A tree of files as a disk. -/
def Disk.ofTree (tree : FileTree) : Disk := ⟨tree.isFile, tree.present, tree.read⟩

/-- Two places for the headers of an installed 5.4. In the first one a directory has the name of a
header. -/
def scattered : FileTree where
  nodes := [(["a"], none), (["a", "collectd"], none), (["a", "collectd", "core"], none),
    (["a", "collectd", "core", "plugin.h"], none),
    (["a", "collectd", "core", "utils_cache.h"], some ""),
    (["b"], none), (["b", "collectd"], none), (["b", "collectd", "core"], none),
    (["b", "collectd", "core", "plugin.h"], some ""),
    (["b", "collectd", "core", "utils_cache.h"], some "")]

/-- The directory is passed over, and the other header still comes from the first place. -/
theorem located_earliest_and_told_scattered :
    let roots := ["/usr/include", "/usr/local/include", "/opt/collectd/include", "a", "b"]
    let check := ["check", "--collectd-54", "--root", "a", "-rb"]
    Checks (Disk.ofTree scattered) (fun _ => none) check .core54 roots ∧
      ((Disk.ofTree scattered).visit (fun _ => none) check).1.exit = 0 ∧
      ((Disk.ofTree scattered).visit (fun _ => none) check).1.stdout
        = "found: b/collectd/core/plugin.h\nfound: a/collectd/core/utils_cache.h\n" ++
          "✓ All 2 headers found\n" := by
  intro roots check
  have parsed : Invocation.parse check
      = some ⟨"cdshim.toml", false, .check ⟨none, true, none⟩ ["a", "b"]⟩ := by rfl
  have resolves : Resolution.resolve ⟨none, true⟩ .initial ⟨none, true, none⟩ (fun _ => none)
      = .ok ⟨.core54, .v54, false, []⟩ := rfl
  have hchecks : Checks (Disk.ofTree scattered) (fun _ => none) check .core54 roots :=
    .intro parsed rfl rfl resolves
  obtain ⟨hfinds, -, -, htells⟩ := located_earliest_and_told (Disk.ofTree scattered) .core54 roots
  have hlocated := (hfinds ["b/collectd/core/plugin.h", "a/collectd/core/utils_cache.h"]).mpr
    (.cons ⟨roots.take 4, "b", [], rfl, rfl, by decide +kernel, by decide +kernel⟩
      (.cons ⟨roots.take 3, "a", ["b"], rfl, rfl, by decide +kernel, by decide +kernel⟩ .nil))
  have htold := htells (fun _ => none) check hchecks
  rw [hlocated] at htold
  exact ⟨hchecks, htold.1, htold.2⟩

end Probe

end PluginKit
