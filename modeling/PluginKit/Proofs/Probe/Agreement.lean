import PluginKit.Proofs.Probe.SettingsText
import PluginKit.Proofs.Probe.Validated
import PluginKit.Proofs.Probe.Visit
import PluginKit.Proofs.Steps
import PluginKit.Proofs.Text.Lines

/-!
# `PluginKit.Proofs.Probe.Agreement`: three commands, one layout

The layout of the headers can be printed, turned into a header that includes them, and checked
against a disk. These commands come to the layout by ways of their own, from the resolution or from
the flags. They agree all the same: either all of them end with the same obstacle, or there is none,
and the headers that one prints are those that the next includes and the third looks for.

What is printed for a reader is not quoted, and it ends with the directories to be searched. The
name of a directory may have line breaks, and a line behind one may look like a line with a header.
Such lines are all that the printed headers can have more than the others.

* `linesAfter_wrapper`, `linesAfter_text`: the headers that can be read from what is printed.
* `Obstacle`, `Obstacle.ends`: what stops a command about the layout, and that it stops all of them.
* `OneLayout`, `oneLayout_of_resolves`: what commands do that go by one layout.
* `commands_agree`: one or the other, for all command lines with the same options.
* `directory_listed_as_header`: a directory whose name lists a header of its own.
-/

set_option autoImplicit false

namespace PluginKit

namespace Probe

open Header (Lookup Flags Layout UnknownVersion Version)
open Text (linesAfter laterLinesAfter)

/-! ### Lists of headers -/

/-- A header as it stands in lists, both in those for a reader and in those for a compiler. -/
def angled (header : String) : String := "<" ++ header ++ ">"

/-- What the headers of a layout are listed as has no line break in it. There are few headers, and
each can be looked at. -/
theorem angled_solid (layout : Layout) :
    ∀ item ∈ layout.includes.map angled, '\n' ∉ item.toList := by
  cases layout <;> decide

/-- The headers of a layout, listed line by line behind a lead, are found there by a reader who
looks for the lead. -/
theorem linesAfter_listed {lead : String} (hlead : '\n' ∉ lead.toList) (layout : Layout)
    (rest : String) :
    linesAfter lead
        (String.join (layout.includes.map fun h => lead ++ "<" ++ h ++ ">\n") ++ rest)
      = layout.includes.map angled ++ linesAfter lead rest := by
  rw [← Text.linesAfter_items hlead rest (angled_solid layout), List.map_map]
  congr 4
  funext h
  simp [angled, String.append_assoc]

/-- The headers that the wrapper includes. Its other lines have another lead. -/
theorem linesAfter_wrapper (layout : Layout) :
    linesAfter "#include " layout.wrapper = layout.includes.map angled := by
  have htext : layout.wrapper
      = "/* collectd plugin headers: " ++ (layout.name ++ " layout */") ++ "\n" ++
        (String.join (layout.includes.map fun h => "#include " ++ "<" ++ h ++ ">\n") ++ "") := by
    -- a literal can hold the end of a lead and the beginning of its item, or the end of a line
    have hlead : "#include <" = "#include " ++ "<" := by decide
    have hend : " layout */\n" = " layout */" ++ "\n" := by decide
    unfold Layout.wrapper
    simp only [hlead, hend, String.append_assoc, -String.reduceAppend]
    rw [String.append_empty]
  have hname : '\n' ∉ ("/* collectd plugin headers: " ++ (layout.name ++ " layout */")).toList := by
    cases layout <;> decide
  rw [htext, Text.linesAfter_other (by decide) hname, linesAfter_listed (by decide),
    Text.linesAfter_empty (by decide), List.append_nil]

/-- The lead of the headers in a resolution that is printed as text. -/
def includeLead : String := "include:     "

/-- The lines of a resolution below the headers: the directories as they were given, and a
warning. -/
def searched (r : Resolution) : String :=
  String.join (r.includeDirs.map fun d => "search dir:  " ++ d ++ "\n") ++
    (if r.shadowed then "warning:     collectd-54 is shadowed by COLLECTD_PATH\n" else "")

/-- The headers of a resolution are listed below its own lines, and above what it searches. -/
theorem linesAfter_text (r : Resolution) :
    linesAfter includeLead (r.text ++ "\n")
      = r.includes.map angled ++ linesAfter includeLead (searched r ++ "\n") := by
  have htext : r.text ++ "\n" = "layout:      " ++ r.layout.name ++ "\n" ++
      ("abi:         " ++ (r.version.name ++ (" (name length " ++ (toString r.version.nameLength ++
        ")"))) ++ "\n" ++
      ("define:      " ++ r.define?.getD "(none)" ++ "\n" ++
      (String.join (r.layout.includes.map fun i => includeLead ++ "<" ++ i ++ ">\n") ++
        (searched r ++ "\n")))) := by
    have hlead : "include:     <" = "include:     " ++ "<" := by decide
    have hend : ")\n" = ")" ++ "\n" := by decide
    unfold Resolution.text includeLead searched
    simp only [hlead, hend, String.append_assoc, -String.reduceAppend]
    rfl
  have hlayout : '\n' ∉ ("layout:      " ++ r.layout.name).toList := by
    cases r.layout <;> decide
  have hversion : '\n' ∉ ("abi:         " ++ (r.version.name ++ (" (name length " ++
      (toString r.version.nameLength ++ ")")))).toList := by
    cases r.version <;> decide
  have hdefine : '\n' ∉ ("define:      " ++ r.define?.getD "(none)").toList := by
    unfold Resolution.define?
    cases r.layout <;> decide
  -- three lines that list nothing, and then the headers
  rw [htext, Text.linesAfter_other (by decide) hlayout, Text.linesAfter_other (by decide) hversion,
    Text.linesAfter_other (by decide) hdefine, linesAfter_listed (by decide)]
  rfl

/-- Directories list what the later lines of their names look like. The first line of a name stands
behind another lead. -/
theorem linesAfter_dirs (dirs : List String) (rest : String) :
    linesAfter includeLead (String.join (dirs.map fun d => "search dir:  " ++ d ++ "\n") ++ rest)
      = dirs.flatMap (laterLinesAfter includeLead) ++ linesAfter includeLead rest := by
  induction dirs with
  | nil => simp
  | cons dir others ih =>
      rw [List.map_cons, String.join_cons, String.append_assoc,
        Text.linesAfter_behind (by decide) (by decide), ih, List.flatMap_cons, List.append_assoc]

/-- The warning below the directories lists nothing, so the directories alone can add to the
headers. -/
theorem linesAfter_searched (r : Resolution) :
    linesAfter includeLead (searched r ++ "\n")
      = r.includeDirs.flatMap (laterLinesAfter includeLead) := by
  have hwarning : linesAfter includeLead ((if r.shadowed then
      "warning:     collectd-54 is shadowed by COLLECTD_PATH\n" else "") ++ "\n") = [] := by
    cases r.shadowed <;> decide
  unfold searched
  rw [String.append_assoc, linesAfter_dirs, hwarning, List.append_nil]

/-! ### What stops a command -/

/-- What stops every command about the layout: a file of settings that cannot be loaded, or a
release that is none, named by the uppermost layer that names any, with no feature to decide
instead. -/
inductive Obstacle (disk : Disk) (env : Lookup) (file : String) (overrides : Overrides) :
    Failure → Prop where
  | settings {e : StoreError} (unusable : disk.settings file = .error e) :
      Obstacle disk env file overrides (e.failure.context "Failed to load configuration")
  | release {settings : Settings} {text : String} (loaded : disk.settings file = .ok settings)
      (undecided : Version.ofFeatures? env = none)
      (named : (overrides.version <|> settings.version <|> env "COLLECTD_VERSION") = some text)
      (nonempty : text ≠ "") (unknown : Version.parse text = none) :
      Obstacle disk env file overrides (.plain (UnknownVersion.mk text).message)

section
variable {disk : Disk} {env : Lookup} {file : String} {overrides : Overrides}

/-- A resolution fails over a release that is none, and over nothing else. -/
theorem resolve_eq_error_iff_release {flags : Flags} {settings : Settings} {e : UnknownVersion} :
    Resolution.resolve flags settings overrides env = .error e ↔
      Version.ofFeatures? env = none ∧
        (overrides.version <|> settings.version <|> env "COLLECTD_VERSION") = some e.text ∧
        e.text ≠ "" ∧ Version.parse e.text = none := by
  have hlayers : ((overrides.version <|> settings.version) <|> env "COLLECTD_VERSION")
      = (overrides.version <|> settings.version <|> env "COLLECTD_VERSION") := by
    cases overrides.version <;> rfl
  rw [Resolution.resolve_eq_error_iff, Version.resolve_eq_error_iff,
    Resolution.ofFeatures?_withVersion, nonEmpty_withVersion_eq_some_iff, hlayers, and_assoc]

/-- Every command about the layout ends with an obstacle in the same way, up to what the log says of
it with and without the flag for more. -/
theorem Obstacle.ends {f : Failure} (h : Obstacle disk env file overrides f) :
    ∃ ended : Bool → Printed, (∀ debug, (ended debug).FailsWith f) ∧
      ∀ arguments debug command, Invocation.parse arguments = some ⟨file, debug, command⟩ →
        command.overrides? = some overrides → disk.visit env arguments = (ended debug, []) := by
  cases h with
  | @settings e unusable =>
      -- the log has not started
      refine ⟨fun _ => (Run.failed [] (e.failure.context "Failed to load configuration")).printed
        .nothing, fun _ => ⟨rfl, rfl, "", ?_⟩, ?_⟩
      · simp [Run.printed, Run.failed, Output.stderr]
      · intro arguments debug command hparse hlayout
        exact visit_of_unusable hparse hlayout unusable
  | @release settings text loaded undecided named nonempty unknown =>
      refine ⟨fun debug => (Run.failed (Run.resolved env settings overrides).outputs
        (.plain (UnknownVersion.mk text).message)).shown env
          (if debug then "debug" else settings.level), ?_, ?_⟩
      · exact fun debug => Run.failsWith_shown (quiet_resolved env settings overrides) ..
      · intro arguments debug command hparse hlayout
        exact visit_of_refused hparse hlayout loaded
          (resolve_eq_error_iff_release.mpr ⟨undecided, named, nonempty, unknown⟩)

end

/-! ### One layout -/

/-- What three commands print and ask that go by one layout: its headers, in their order. Only the
check looks at a disk. -/
structure OneLayout (disk : Disk) (layout : Layout) (dirs roots : List String) (format : Format)
    (resolve wrapper check : Printed × List String) : Prop where
  resolve_exit : resolve.1.exit = 0
  resolve_asks : resolve.2 = []
  /-- The headers of the layout come first. What follows them are lines behind a line break in the
  name of a directory, so there is nothing if no name has one. -/
  resolve_lists : format = .text → linesAfter includeLead resolve.1.stdout
    = layout.includes.map angled ++ dirs.flatMap (laterLinesAfter includeLead)
  wrapper_exit : wrapper.1.exit = 0
  wrapper_asks : wrapper.2 = []
  wrapper_lists : linesAfter "#include " wrapper.1.stdout = layout.includes.map angled
  /-- The headers are looked up in their order, up to the first that is missing. -/
  check_asks : check.2 = (upToFirst (Layout.isMissing disk.isFile roots) layout.includes).flatMap
    fun header => upToFirst disk.isFile (Layout.candidates roots header)
  check_finds : (∀ header ∈ layout.includes, Layout.isMissing disk.isFile roots header = false) →
    check.1.exit = 0
  check_misses : ∀ header,
    layout.includes.find? (Layout.isMissing disk.isFile roots) = some header →
      check.1.exit = 1 ∧ check.1.stdout = "" ∧
        ∃ log, check.1.stderr = log ++ ("✗ " ++ (Header.Missing.mk header roots).message ++ "\n")

section
variable {disk : Disk} {env : Lookup} {settings : Settings} {overrides : Overrides}
  {resolution : Resolution}

/-- Commands that resolve a layout go by it: one prints it with its headers, one includes them, and
one looks for them. -/
theorem oneLayout_of_resolves {flags : Flags} {roots further : List String} {file : String}
    {format : Option Format} {d₁ d₂ d₃ : Bool} {resolve wrapper check : List String}
    (hflags : layeredFlags (Flags.ofLookup env) settings overrides = flags)
    (hroots : searchRoots flags.layout flags settings further = roots)
    (hloaded : disk.settings file = .ok settings)
    (hresolves : Resolution.resolve flags settings overrides env = .ok resolution)
    (hresolve : Invocation.parse resolve = some ⟨file, d₁, .resolve overrides format⟩)
    (hwrapper : Invocation.parse wrapper = some ⟨file, d₂, .wrapper overrides⟩)
    (hcheck : Invocation.parse check = some ⟨file, d₃, .check overrides further⟩) :
    OneLayout disk flags.layout (flags.layout.includeDirs flags) roots
      (format.getD settings.format)
      (disk.visit env resolve) (disk.visit env wrapper) (disk.visit env check) := by
  -- The three commands take the same settings and flags, so what they print is set side by side
  -- first; the rest reads one output at a time.
  have hquiet := quiet_resolved env settings overrides
  obtain ⟨hlayout, hdirs⟩ := resolve_ok_layout hresolves
  obtain ⟨start, hstart, hchecked⟩ := visit_check hcheck hloaded hflags hroots hresolves
  rw [hchecked, visit_wrapper hwrapper hloaded hflags hresolves,
    visit_resolve hresolve hloaded (hflags ▸ hresolves)]
  refine {
    resolve_exit := rfl
    resolve_asks := rfl
    resolve_lists := ?resolve_lists
    wrapper_exit := rfl
    wrapper_asks := rfl
    wrapper_lists := ?wrapper_lists
    check_asks := rfl
    check_finds := ?check_finds
    check_misses := ?check_misses }
  case resolve_lists =>
    intro htext
    rw [Run.shown_stdout_out hquiet, htext]
    show linesAfter includeLead (resolution.text ++ "\n") = _
    rw [linesAfter_text, linesAfter_searched, Resolution.includes, hlayout, hdirs]
  case wrapper_lists =>
    rw [Run.shown_stdout_out hquiet]
    exact linesAfter_wrapper flags.layout
  case check_finds =>
    intro hthere
    have hnone : flags.layout.includes.find? (Layout.isMissing disk.isFile roots) = none :=
      List.find?_eq_none.mpr fun header h => by simp [hthere header h]
    rw [Layout.found, hnone]
    rfl
  case check_misses =>
    intro header hmissing
    rw [Layout.found, hmissing]
    exact ⟨rfl, Run.shown_stdout_err hstart .., Run.exists_shown_stderr ..⟩

end

/-- The commands about the layout agree. With the same options about it they all end with the same
obstacle, or there is none and they go by the same headers. The printed list can be longer only by
what line breaks in the names of directories spell out. -/
theorem commands_agree {disk : Disk} {env : Lookup} {file : String} {overrides : Overrides}
    {format : Option Format} {further : List String} {d₁ d₂ d₃ : Bool}
    {resolve wrapper check : List String}
    (hresolve : Invocation.parse resolve = some ⟨file, d₁, .resolve overrides format⟩)
    (hwrapper : Invocation.parse wrapper = some ⟨file, d₂, .wrapper overrides⟩)
    (hcheck : Invocation.parse check = some ⟨file, d₃, .check overrides further⟩) :
    (∃ f, Obstacle disk env file overrides f ∧
      ∃ ended : Bool → Printed, (∀ debug, (ended debug).FailsWith f) ∧
        disk.visit env resolve = (ended d₁, []) ∧ disk.visit env wrapper = (ended d₂, []) ∧
        disk.visit env check = (ended d₃, [])) ∨
    ((∀ f, ¬ Obstacle disk env file overrides f) ∧
      ∃ settings, disk.settings file = .ok settings ∧
        let flags := layeredFlags (Flags.ofLookup env) settings overrides
        OneLayout disk flags.layout (flags.layout.includeDirs flags)
          (searchRoots flags.layout flags settings further) (format.getD settings.format)
          (disk.visit env resolve) (disk.visit env wrapper) (disk.visit env check)) := by
  -- Loading and the version come before a command is looked at, so they stop all three or none.
  by_cases hobstacle : ∃ f, Obstacle disk env file overrides f
  · obtain ⟨f, hf⟩ := hobstacle
    obtain ⟨ended, hfails, hends⟩ := hf.ends
    exact .inl ⟨f, hf, ended, hfails, hends _ _ _ hresolve rfl, hends _ _ _ hwrapper rfl,
      hends _ _ _ hcheck rfl⟩
  · have hfree : ∀ f, ¬ Obstacle disk env file overrides f := not_exists.mp hobstacle
    refine .inr ⟨hfree, ?_⟩
    cases hloaded : disk.settings file with
    | error e => exact absurd (.settings hloaded) (hfree _)
    | ok settings =>
        refine ⟨settings, rfl, ?_⟩
        cases hresolves : Resolution.resolve
            (layeredFlags (Flags.ofLookup env) settings overrides) settings overrides env with
        | error e =>
            obtain ⟨undecided, named, nonempty, unknown⟩ :=
              resolve_eq_error_iff_release.mp hresolves
            exact absurd (.release hloaded undecided named nonempty unknown) (hfree _)
        | ok resolution =>
            exact oneLayout_of_resolves rfl rfl hloaded hresolves hresolve hwrapper hcheck

/-- A disk gives the settings that were written to it. -/
theorem Disk.settings_of_write {disk : Disk} {file : String} {settings : Settings}
    (hpresent : disk.present file = true) (hcontent : disk.content file = .ok settings.write) :
    disk.settings file = .ok settings := by
  unfold Disk.settings
  simp only [hpresent, hcontent, Settings.read_write, if_true]

/-- Settings for an installed 5.4. -/
def installed54 : Settings := { Settings.initial with collectd54 := true, version := some "5.4.2" }

/-- An installed 5.4 that one of the headers is missing from. -/
def incomplete : Disk where
  isFile path := path == "/usr/include/collectd/core/plugin.h"
  present path := path == "probe.toml"
  content _ := .ok installed54.write

/-- On such a disk two headers are listed and the second is missing. -/
theorem commands_agree_incomplete :
    let resolve := incomplete.visit (fun _ => none) ["-c", "probe.toml", "resolve"]
    let wrapper := incomplete.visit (fun _ => none) ["wrapper", "--config=probe.toml", "--debug"]
    let check := incomplete.visit (fun _ => none) ["-cprobe.toml", "check", "-r", "/opt"]
    linesAfter includeLead resolve.1.stdout
        = ["<collectd/core/plugin.h>", "<collectd/core/utils_cache.h>"] ∧
      linesAfter "#include " wrapper.1.stdout
        = ["<collectd/core/plugin.h>", "<collectd/core/utils_cache.h>"] ∧
      check.1.exit = 1 ∧
      check.2 = ["/usr/include/collectd/core/plugin.h",
        "/usr/include/collectd/core/utils_cache.h",
        "/usr/local/include/collectd/core/utils_cache.h",
        "/opt/collectd/include/collectd/core/utils_cache.h",
        "/opt/collectd/core/utils_cache.h"] := by
  have hsettings : incomplete.settings "probe.toml" = .ok installed54 :=
    Disk.settings_of_write (by decide) rfl
  rcases @commands_agree incomplete (fun _ => none) "probe.toml" ⟨none, false, none⟩ none ["/opt"]
      false true false ["-c", "probe.toml", "resolve"] ["wrapper", "--config=probe.toml", "--debug"]
      ["-cprobe.toml", "check", "-r", "/opt"] (by rfl) (by rfl) (by rfl)
    with ⟨f, hobstacle, -⟩ | ⟨-, settings, hloaded, hlayout⟩
  · cases hobstacle with
    | settings unusable =>
        rw [hsettings] at unusable
        cases unusable
    | release loaded undecided named nonempty unknown =>
        obtain rfl := Except.ok.inj (hsettings.symm.trans loaded)
        obtain rfl := Option.some.inj named
        exact absurd unknown (by decide)
  · obtain rfl := Except.ok.inj (hsettings.symm.trans hloaded)
    refine ⟨hlayout.resolve_lists rfl, hlayout.wrapper_lists,
      (hlayout.check_misses "collectd/core/utils_cache.h" (by decide)).1, ?_⟩
    rw [hlayout.check_asks]
    decide

/-- A disk without files, and so without settings. -/
def blank : Disk := ⟨fun _ => false, fun _ => false, fun _ => .error .notFound⟩

/-- A directory whose name has line breaks and spells a header between them. -/
def misleading : Overrides := ⟨some "x\ninclude:     <evil.h>\ny", false, none⟩

/-- Printed headers need not be the ones that are included and looked for: the name of this
directory spells one more, and does so each time that it is printed. -/
theorem directory_listed_as_header :
    let options := ["--collectd-path", "x\ninclude:     <evil.h>\ny"]
    let resolve := blank.visit (fun _ => none) ("resolve" :: options)
    let wrapper := blank.visit (fun _ => none) ("wrapper" :: options)
    let check := blank.visit (fun _ => none) ("check" :: options)
    linesAfter includeLead resolve.1.stdout = ["<liboconfig/oconfig.h>", "<daemon/plugin.h>",
        "<daemon/utils_cache.h>", "<evil.h>", "<evil.h>"] ∧
      linesAfter "#include " wrapper.1.stdout
        = ["<liboconfig/oconfig.h>", "<daemon/plugin.h>", "<daemon/utils_cache.h>"] ∧
      ∀ path ∈ check.2, ¬ "evil.h".toList <:+ path.toList := by
  intro options resolve wrapper check
  have hsettings : blank.settings "cdshim.toml" = .ok Settings.initial := rfl
  obtain ⟨resolution, hresolves⟩ : ∃ resolution, Resolution.resolve
      (layeredFlags (Flags.ofLookup fun _ => none) .initial misleading) .initial misleading
      (fun _ => none) = .ok resolution := ⟨_, rfl⟩
  have hlayout := oneLayout_of_resolves rfl rfl hsettings hresolves
    (show Invocation.parse ("resolve" :: options) = some ⟨_, false, .resolve _ none⟩ from rfl)
    (show Invocation.parse ("wrapper" :: options) = some ⟨_, false, .wrapper _⟩ from rfl)
    (show Invocation.parse ("check" :: options) = some ⟨_, false, .check _ []⟩ from rfl)
  -- The text has the directory as it was given, so what is behind its line break is a line.
  refine ⟨(hlayout.resolve_lists rfl).trans ?_, hlayout.wrapper_lists, ?_⟩
  · decide
  · rw [hlayout.check_asks]
    decide

end Probe

end PluginKit
