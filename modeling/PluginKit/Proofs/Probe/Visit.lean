import PluginKit.Probe.Run
import PluginKit.Proofs.Header.Search

/-!
# `PluginKit.Proofs.Probe.Visit`: commands about the layout on a disk

The commands about the layout read one file for their settings, resolve the layout, and then say
something about it; only one of them looks for the headers. They are carried out here on a disk that
stays as it is and that notes which paths it is asked about, so that a command line has an answer
and a list of questions.

* `Disk`, `Disk.visit`: a disk, and a command line on it.
* `Disk.settings`, `settingsFor_run`: the settings of a file, and that the commands go by them.
* `visit_of_unusable`, `visit_of_settings`: what a command about the layout prints and asks.
* `Quiet`, `Run.shown_stdout`, `Run.exists_shown_stderr`: what is printed, the log apart.
* `visit_of_refused`: without a release that is known, all of them end in the same way.
* `resolve_ok_layout`: the layout that they go by.
* `visit_resolve`, `visit_wrapper`, `visit_check`: what each of them does with a layout.
-/

set_option autoImplicit false

namespace PluginKit

namespace Probe

open Header (Lookup Flags Layout UnknownVersion)
open Header.Layout (noting)

/-- Files that stay as they are while a program looks at them. What is there, what is a file and
what it holds need not fit together. -/
structure Disk where
  isFile : String → Bool
  present : String → Bool
  content : String → Except FileError String

namespace Disk

/-- The operations. Every path whose file is asked for is noted, and nothing can be written; the
commands that are looked at here write nothing. -/
def files (disk : Disk) : Files (StateM (List String)) where
  isFile := noting disk.isFile
  present path := return disk.present path
  read path := return disk.content path
  write _ _ := return .error (.other "Read-only file system (os error 30)")

/-- What a command line prints, and the paths that it asks for. -/
def visit (disk : Disk) (env : Lookup) (arguments : List String) : Printed × List String :=
  (run disk.files env arguments).run []

/-- The settings of a file, which are the initial ones if there is no such file. Whether it is there
is asked before it is read. -/
def settings (disk : Disk) (file : String) : Except StoreError Settings :=
  if disk.present file then
    match disk.content file with
    | .error e => .error (.unreadable file e)
    | .ok text =>
      match Settings.read text with
      | none => .error .malformed
      | some settings => .ok settings
  else .ok .initial

end Disk

/-- What a command about the layout says about it. -/
def Command.overrides? : Command → Option Overrides
  | .resolve overrides _ => some overrides
  | .wrapper overrides => some overrides
  | .check overrides _ => some overrides
  | .validate | .config .. => none

variable {disk : Disk} {env : Lookup} {invocation : Invocation} {overrides : Overrides}

/-! ### Settings -/

theorem load_run (file : String) (asked : List String) :
    (Store.initial.load disk.files file).run asked
      = (Store.initial.loaded file (disk.content file), asked) := rfl

/-- A command about the layout goes by the settings of its file, and notes nothing in reading
them. -/
theorem settingsFor_run (h : invocation.command.overrides? = some overrides)
    (asked : List String) :
    (Run.settingsFor disk.files invocation).run asked
      = (disk.settings invocation.config, asked) := by
  -- the three commands take the same way
  have hlayout : Run.settingsFor disk.files invocation
      = Run.settingsFor disk.files { invocation with command := .wrapper overrides } := by
    unfold Run.settingsFor
    cases hcommand : invocation.command with
    | resolve | wrapper | check => rfl
    | validate | config => simp [hcommand, Command.overrides?] at h
  rw [hlayout, Run.settingsFor]
  dsimp only
  rw [StateT.run_bind]
  show (if disk.present invocation.config then _ else _ : StateM (List String) _).run asked = _
  unfold Disk.settings
  cases disk.present invocation.config with
  | false => rfl
  | true =>
      -- the file is there, but it may not be readable, and its text may not be that of settings
      rw [if_pos rfl, if_pos rfl, StateT.run_bind, load_run]
      cases disk.content invocation.config with
      | error e => rfl
      | ok text =>
          simp only [Store.loaded]
          cases Settings.read text <;> rfl

/-! ### Carrying out -/

/-- What is printed of a run under a level of the log. -/
def Run.shown (env : Lookup) (level : String) (r : Run) : Printed :=
  (Run.mk (logNotes env level ++ r.outputs) r.exit).printed (logFilter env level)

section
variable {arguments : List String} {settings : Settings}

/-- Settings that cannot be loaded end every command about the layout, before the log is set up and
before the command itself is looked at. -/
theorem visit_of_unusable (hparse : Invocation.parse arguments = some invocation)
    (h : invocation.command.overrides? = some overrides) {e : StoreError}
    (hsettings : disk.settings invocation.config = .error e) :
    disk.visit env arguments
      = ((Run.failed [] (e.failure.context "Failed to load configuration")).printed .nothing,
        []) := by
  unfold Disk.visit run
  simp only [hparse, StateT.run_bind, settingsFor_run h, hsettings]
  rfl

/-- A command about the layout is carried out under the settings of its file, with the log at their
level. -/
theorem visit_of_settings (hparse : Invocation.parse arguments = some invocation)
    (h : invocation.command.overrides? = some overrides)
    (hsettings : disk.settings invocation.config = .ok settings) :
    disk.visit env arguments
      = (((Run.command disk.files env settings invocation).run []).1.shown env
          (Run.logLevel invocation settings),
        ((Run.command disk.files env settings invocation).run []).2) := by
  unfold Disk.visit run
  simp only [hparse, StateT.run_bind, settingsFor_run h, hsettings]
  rfl

end

/-! ### What is printed -/

/-- What a failure leaves behind: nothing but its report, below what the log has to say. -/
structure Printed.FailsWith (f : Failure) (p : Printed) : Prop where
  exit : p.exit = 1
  stdout : p.stdout = ""
  stderr : ∃ log, p.stderr = log ++ f.report

/-- Nothing for standard output. Notes for the log are quiet, and so is a failure. -/
def Quiet (outputs : List Output) : Prop := ∀ o ∈ outputs, o.stdout = ""

theorem Quiet.join {outputs : List Output} (h : Quiet outputs) :
    String.join (outputs.map Output.stdout) = "" := by
  induction outputs with
  | nil => rfl
  | cons o rest ih =>
      obtain ⟨ho, hrest⟩ := List.forall_mem_cons.mp h
      rw [List.map_cons, String.join_cons, ho, ih hrest]
      rfl

theorem Quiet.append {first second : List Output} (hfirst : Quiet first) (hsecond : Quiet second) :
    Quiet (first ++ second) := by
  intro o ho
  rcases List.mem_append.mp ho with ho | ho
  · exact hfirst o ho
  · exact hsecond o ho

theorem quiet_logNotes (env : Lookup) (level : String) : Quiet (Run.logNotes env level) := by
  intro o ho
  unfold Run.logNotes at ho
  split at ho
  · cases ho
  · obtain ⟨r, -, rfl⟩ := List.mem_map.mp ho
    rfl

/-- What is noted while a layout is resolved goes to the log. -/
theorem quiet_resolved (env : Lookup) (settings : Settings) (overrides : Overrides) :
    Quiet (Run.resolved env settings overrides).outputs := by
  intro o ho
  rcases List.mem_append.mp ho with ho | ho
  · split at ho
    · rw [List.mem_singleton.mp ho]
      rfl
    · cases ho
  · split at ho
    · rw [List.mem_singleton.mp ho]
      rfl
    · cases ho

/-- What the log is about does not go to standard output, at any level. -/
theorem Run.shown_stdout (env : Lookup) (level : String) (r : Run) :
    (r.shown env level).stdout = String.join (r.outputs.map Output.stdout) := by
  show String.join ((logNotes env level ++ r.outputs).map Output.stdout) = _
  rw [List.map_append, String.join_append, (quiet_logNotes env level).join]
  simp

/-- A text that is the only one for standard output is all of it. -/
theorem Run.shown_stdout_out {outputs : List Output} (h : Quiet outputs) (env : Lookup)
    (level text : String) (code : Nat) :
    ((Run.mk (outputs ++ [.out text]) code).shown env level).stdout = text := by
  rw [shown_stdout, List.map_append, String.join_append, h.join]
  simp [Output.stdout]

/-- Nothing of what goes to standard error is on standard output. -/
theorem Run.shown_stdout_err {outputs : List Output} (h : Quiet outputs) (env : Lookup)
    (level text : String) (code : Nat) :
    ((Run.mk (outputs ++ [Output.err text]) code).shown env level).stdout = "" := by
  rw [shown_stdout, List.map_append, String.join_append, h.join]
  simp [Output.stdout]

/-- What is said last is at the end of standard error. -/
theorem Run.exists_shown_stderr (env : Lookup) (level : String) (outputs : List Output)
    (text : String) (code : Nat) :
    ∃ log, ((Run.mk (outputs ++ [Output.err text]) code).shown env level).stderr = log ++ text := by
  refine ⟨String.join ((logNotes env level ++ outputs).map (Output.stderr (logFilter env level))),
    ?_⟩
  show String.join ((logNotes env level ++ (outputs ++ [Output.err text])).map _) = _
  simp [← List.append_assoc, Output.stderr]

theorem Run.failsWith_shown {outputs : List Output} (h : Quiet outputs) (env : Lookup)
    (level : String) (f : Failure) : ((failed outputs f).shown env level).FailsWith f where
  exit := rfl
  stdout := shown_stdout_err h env level f.report 1
  stderr := exists_shown_stderr env level outputs f.report 1

/-! ### Commands -/

section
variable {arguments : List String} {config : String} {debug : Bool} {command : Command}
  {settings : Settings} {flags : Flags}

/-- Without a release that is known, every command about the layout ends in the same way: with the
notes of the resolution and the error. -/
theorem visit_of_refused {e : UnknownVersion}
    (hparse : Invocation.parse arguments = some ⟨config, debug, command⟩)
    (h : command.overrides? = some overrides) (hsettings : disk.settings config = .ok settings)
    (hrefused : Resolution.resolve (layeredFlags (Flags.ofLookup env) settings overrides) settings
      overrides env = .error e) :
    disk.visit env arguments
      = ((Run.failed (Run.resolved env settings overrides).outputs (.plain e.message)).shown env
          (if debug then "debug" else settings.level), []) := by
  have hresult : (Run.resolved env settings overrides).result = .error e := hrefused
  rw [visit_of_settings hparse h hsettings]
  cases command with
  | resolve o format =>
      obtain rfl := Option.some.inj h
      simp only [Run.command, Run.resolve, hresult]
      rfl
  | wrapper o =>
      obtain rfl := Option.some.inj h
      simp only [Run.command, Run.wrapper, hresult]
      rfl
  | check o roots =>
      obtain rfl := Option.some.inj h
      simp only [Run.command, Run.check, hresult]
      rfl
  | validate | config => cases h

variable {resolution : Resolution}

/-- A resolution is of the layout of the flags, with its directories. So commands that take the
layout from the flags take the same one. -/
theorem resolve_ok_layout
    (h : Resolution.resolve flags settings overrides env = .ok resolution) :
    resolution.layout = flags.layout ∧
      resolution.includeDirs = flags.layout.includeDirs flags := by
  obtain ⟨version, -, hresolution⟩ := bind_eq_ok.mp h
  obtain rfl := Except.ok.inj hresolution
  exact ⟨rfl, rfl⟩

/-- A layout that is printed, in the format that was asked for or that of the settings. -/
theorem visit_resolve {format : Option Format}
    (hparse : Invocation.parse arguments = some ⟨config, debug, .resolve overrides format⟩)
    (hsettings : disk.settings config = .ok settings)
    (hresolves : Resolution.resolve (layeredFlags (Flags.ofLookup env) settings overrides) settings
      overrides env = .ok resolution) :
    disk.visit env arguments
      = ((Run.mk ((Run.resolved env settings overrides).outputs ++
          [.out (resolution.render (format.getD settings.format) ++ "\n")]) 0).shown env
          (if debug then "debug" else settings.level), []) := by
  have hresult : (Run.resolved env settings overrides).result = .ok resolution := hresolves
  rw [visit_of_settings hparse rfl hsettings]
  simp only [Run.command, Run.resolve, hresult]
  rfl

/-- A header that includes the others. It is made from the layout of the flags, and the resolution
serves to see that there is one. -/
theorem visit_wrapper
    (hparse : Invocation.parse arguments = some ⟨config, debug, .wrapper overrides⟩)
    (hsettings : disk.settings config = .ok settings)
    (hflags : layeredFlags (Flags.ofLookup env) settings overrides = flags)
    (hresolves : Resolution.resolve flags settings overrides env = .ok resolution) :
    disk.visit env arguments
      = ((Run.mk ((Run.resolved env settings overrides).outputs ++ [.out flags.layout.wrapper])
          0).shown env (if debug then "debug" else settings.level), []) := by
  subst hflags
  have hresult : (Run.resolved env settings overrides).result = .ok resolution := hresolves
  rw [visit_of_settings hparse rfl hsettings]
  simp only [Run.command, Run.wrapper, hresult]
  rfl

/-- What a check says of a search for some number of headers. -/
def Run.ofSearch (start : List Output) (count : Nat) : Except Header.Missing (List String) → Run
  | .ok found => ⟨start ++ found.map (fun path => .out ("found: " ++ path ++ "\n")) ++
      [.out ("✓ All " ++ toString count ++ " headers found\n")], 0⟩
  | .error missing => ⟨start ++ [.err ("✗ " ++ missing.message ++ "\n")], 1⟩

/-- A check, once the layout is known, searches for its headers and says what came of it. The
questions are those of the search. -/
theorem visit_check {roots further : List String}
    (hparse : Invocation.parse arguments = some ⟨config, debug, .check overrides further⟩)
    (hsettings : disk.settings config = .ok settings)
    (hflags : layeredFlags (Flags.ofLookup env) settings overrides = flags)
    (hroots : searchRoots flags.layout flags settings further = roots)
    (hresolves : Resolution.resolve flags settings overrides env = .ok resolution) :
    ∃ start, Quiet start ∧
      disk.visit env arguments
        = ((Run.ofSearch start resolution.includes.length
            (Layout.found disk.isFile roots flags.layout.includes)).shown env
            (if debug then "debug" else settings.level),
          (upToFirst (Layout.isMissing disk.isFile roots) flags.layout.includes).flatMap
            fun header => upToFirst disk.isFile (Layout.candidates roots header)) := by
  have hlayers : (Run.resolved env settings overrides).flags = flags := hflags
  have hresult : (Run.resolved env settings overrides).result = .ok resolution := by
    subst hflags
    exact hresolves
  -- what goes before the search is about the layout and goes to the log
  let start := (Run.resolved env settings overrides).outputs ++ [.message .info ("Checking " ++
    resolution.layout.name ++ " layout under " ++ toString roots.length ++ " roots")]
  have hrun : (Run.check disk.files env settings overrides further).run []
      = (Run.ofSearch start resolution.includes.length
          (Layout.found disk.isFile roots flags.layout.includes),
        (upToFirst (Layout.isMissing disk.isFile roots) flags.layout.includes).flatMap
          fun header => upToFirst disk.isFile (Layout.candidates roots header)) := by
    simp only [Run.check, hresult, hlayers, hroots, Layout.locate, StateT.run_bind]
    show (Layout.locateAll (noting disk.isFile) roots flags.layout.includes).run [] >>= _ = _
    rw [Layout.locateAll_run]
    cases Layout.found disk.isFile roots flags.layout.includes with
    | ok found => rfl
    | error missing => rfl
  refine ⟨start, (quiet_resolved env settings overrides).append fun o ho => ?_, ?_⟩
  · rw [List.mem_singleton.mp ho]
    rfl
  · rw [visit_of_settings hparse rfl hsettings]
    simp only [Run.command, hrun]
    rfl

end

end Probe

end PluginKit
