import PluginKit.Probe.Store
import PluginKit.Proofs.Files
import PluginKit.Proofs.Probe.SettingsText

/-!
# `PluginKit.Proofs.Probe.Store`: the settings of the latest load

A run of loads and saves is written down as a list of `Deed`s. `latest` is the last text among them
that was taken over, and `fresh` the store that has loaded nothing but this text. The files are any
operations on any state: what a load finds may have been written by a save before it, or by anyone.

* `saved_settings_load`: a saved file gives its settings back.
* `Served`, `serve_served`: what one request can do, and what is written down of it.
* `Served.reflects`, `run_reflects`: the store stays that of the latest load.
* `run_reflects_latest`: a run from the initial store, and any request after it.
-/

set_option autoImplicit false

namespace PluginKit

namespace Probe

namespace Store

/-! ### One load -/

/-- A saved text is taken over by every store, whatever it had before. -/
theorem loaded_write (store : Store) (path : String) (settings : Settings) :
    store.loaded path (.ok settings.write) = (⟨settings, some path⟩, .ok ()) := by
  simp only [loaded, Settings.read_write]

/-- A save that can be written answers so and leaves the text there. -/
theorem save_run_of_ok {store : Store} {path : String} {tree after : FileTree}
    (h : tree.write path store.settings.write = .ok after) :
    (store.save FileTree.files path).run tree = (.ok (), after) := by
  simp only [save, FileTree.files, StateT.run_bind, StateT.run_get, pure_bind, h]
  rfl

/-- A save that cannot be written says which file and why, and leaves the files as they are. -/
theorem save_run_of_error {store : Store} {path : String} {tree : FileTree} {e : FileError}
    (h : tree.write path store.settings.write = .error e) :
    (store.save FileTree.files path).run tree = (.error (.unwritable path e), tree) := by
  simp only [save, FileTree.files, StateT.run_bind, StateT.run_get, pure_bind, h]
  rfl

/-- A save succeeds where the text of the settings can be written, and has written it then. -/
theorem save_run_eq_ok_iff {store : Store} {path : String} {tree saved : FileTree} :
    (store.save FileTree.files path).run tree = (.ok (), saved) ↔
      tree.write path store.settings.write = .ok saved := by
  constructor
  · intro h
    cases hwrite : tree.write path store.settings.write with
    | error e =>
        rw [save_run_of_error hwrite] at h
        exact absurd (congrArg Prod.fst h) (by simp)
    | ok after =>
        rw [save_run_of_ok hwrite] at h
        exact congrArg Except.ok (congrArg Prod.snd h)
  · exact save_run_of_ok

/-- What is saved is loaded again. Every store takes over the text of the settings and gets just
these settings. A save writes this text wherever it can be written, and from the file every store
gets the settings that were saved. -/
theorem saved_settings_load (store other : Store) (path : String) :
    other.loaded path (.ok store.settings.write) = (⟨store.settings, some path⟩, .ok ()) ∧
    ∀ tree saved : FileTree,
      ((store.save FileTree.files path).run tree = (.ok (), saved) ↔
        tree.write path store.settings.write = .ok saved) ∧
      ((store.save FileTree.files path).run tree = (.ok (), saved) →
        (other.load FileTree.files path).run saved
          = ((⟨store.settings, some path⟩, .ok ()), saved)) := by
  refine ⟨other.loaded_write path store.settings, fun tree saved =>
    ⟨save_run_eq_ok_iff, fun hsave => ?_⟩⟩
  have hread : saved.read path = .ok store.settings.write :=
    FileTree.read_of_write (save_run_eq_ok_iff.mp hsave)
  have hload : (other.load FileTree.files path).run saved
      = (other.loaded path (saved.read path), saved) := rfl
  rw [hload, hread, loaded_write]

/-- Settings with everything in them that a document has to spell out: quotes of both kinds, a
backslash, line ends, a control character, no root and no version. -/
def awkward : Settings where
  collectdPath := some "C:\\'old' \"src\"\n\t"
  collectd54 := true
  searchRoots := []
  version := none
  format := .cflags
  level := "'''\r\n\x01\"\"\""

/-- The awkward settings, saved over another file and loaded by a store that had different ones. -/
theorem saved_settings_load_awkward :
    (save FileTree.files ⟨awkward, none⟩ "conf/../a.toml").run
        ⟨[(["conf"], none), (["a.toml"], some "[headers]")]⟩
      = (.ok (), ⟨[(["conf"], none), (["a.toml"], some awkward.write)]⟩) ∧
    (load FileTree.files ⟨.initial, some "b.toml"⟩ "conf/../a.toml").run
        ⟨[(["conf"], none), (["a.toml"], some awkward.write)]⟩
      = ((⟨awkward, some "conf/../a.toml"⟩, .ok ()),
        ⟨[(["conf"], none), (["a.toml"], some awkward.write)]⟩) := by
  have hsave : (save FileTree.files ⟨awkward, none⟩ "conf/../a.toml").run
        ⟨[(["conf"], none), (["a.toml"], some "[headers]")]⟩
      = (.ok (), ⟨[(["conf"], none), (["a.toml"], some awkward.write)]⟩) := rfl
  obtain ⟨-, hfiles⟩ :=
    saved_settings_load ⟨awkward, none⟩ ⟨.initial, some "b.toml"⟩ "conf/../a.toml"
  exact ⟨hsave, (hfiles _ _).2 hsave⟩

/-! ### A run -/

/-- What is asked of a store. -/
inductive Request where
  | load (path : String)
  | save (path : String)
  deriving DecidableEq, Repr

/-- What came of a request. Of a load, also what the file gave, so that a list of deeds says what a
store has to have, without looking at the store. -/
inductive Deed where
  | load (path : String) (content : Except FileError String) (answer : Except StoreError Unit)
  | save (path : String) (answer : Except StoreError Unit)
  deriving Repr

/-- The path and the text of a load that succeeded. -/
def Deed.taken? : Deed → Option (String × String)
  | .load path (.ok text) (.ok ()) => some (path, text)
  | _ => none

/-- Does what is asked and writes it down. -/
def serve {σ : Type} (files : Files (StateM σ)) (store : Store) : Request → StateM σ (Store × Deed)
  | .load path => do
    let world ← get
    let (after, answer) ← store.load files path
    return (after, .load path ((files.read path).run world).1 answer)
  | .save path => return (store, .save path (← store.save files path))

/-- One request after another. -/
def run {σ : Type} (files : Files (StateM σ)) (store : Store) :
    List Request → StateM σ (Store × List Deed)
  | [] => return (store, [])
  | request :: requests => do
    let (next, deed) ← serve files store request
    let (last, deeds) ← run files next requests
    return (last, deed :: deeds)

/-- The path and the text of the latest load that succeeded. Saves do not count, and neither do
loads that failed after it. -/
def latest (deeds : List Deed) : Option (String × String) := (deeds.filterMap Deed.taken?).getLast?

/-- A new store that loads one text, or none. The store of a run is compared with it. -/
def fresh : Option (String × String) → Store
  | none => .initial
  | some (path, text) => (Store.initial.loaded path (.ok text)).1

theorem latest_append_singleton (deeds : List Deed) (deed : Deed) :
    latest (deeds ++ [deed]) = deed.taken?.or (latest deeds) := by
  unfold latest
  rw [List.filterMap_append, List.getLast?_append]
  cases h : deed.taken? with
  | none => rw [List.filterMap_cons_none h]; rfl
  | some taken => rw [List.filterMap_cons_some h]; rfl

/-- A store is what a new store becomes by loading the text that was taken over and nothing else,
and names its path. -/
structure Reflects (store : Store) (taken : Option (String × String)) : Prop where
  alone : store = fresh taken
  named : store.source = taken.map Prod.fst

theorem reflects_of_read {path text : String} {settings : Settings}
    (h : Settings.read text = some settings) :
    Reflects ⟨settings, some path⟩ (some (path, text)) where
  alone := by simp only [fresh, loaded, h]
  named := rfl

/-- What a request can do: it takes over the settings of a text, and the path with them, if it is a
load of a text that can be read as settings. A load that fails leaves the store, and so does a save,
whether it fails or not. -/
inductive Served (store : Store) : Request → Store → Deed → Prop
  | taken {path text : String} {settings : Settings} (h : Settings.read text = some settings) :
      Served store (.load path) ⟨settings, some path⟩ (.load path (.ok text) (.ok ()))
  | unreadable {path : String} {e : FileError} :
      Served store (.load path) store (.load path (.error e) (.error (.unreadable path e)))
  | malformed {path text : String} (h : Settings.read text = none) :
      Served store (.load path) store (.load path (.ok text) (.error .malformed))
  | saved {path : String} {answer : Except StoreError Unit} :
      Served store (.save path) store (.save path answer)

/-- A request that is served after some deeds keeps the store that of the latest load. -/
theorem Served.reflects {store after : Store} {request : Request} {deed : Deed}
    (hserved : Served store request after deed) {done : List Deed}
    (h : store.Reflects (latest done)) : after.Reflects (latest (done ++ [deed])) := by
  rw [latest_append_singleton]
  cases hserved with
  | taken hread => exact reflects_of_read hread
  | unreadable => exact h
  | malformed hnone => exact h
  | saved => exact h

section
variable {σ : Type} (files : Files (StateM σ))

theorem serve_served (store : Store) (request : Request) (world : σ) :
    Served store request ((serve files store request).run world).1.1
      ((serve files store request).run world).1.2 := by
  cases request with
  | save path => exact .saved
  | load path =>
      show Served store (.load path) (store.loaded path ((files.read path).run world).1).1
        (.load path ((files.read path).run world).1
          (store.loaded path ((files.read path).run world).1).2)
      cases ((files.read path).run world).1 with
      | error e => exact .unreadable
      | ok text =>
          cases hread : Settings.read text with
          | none =>
              simp only [loaded, hread]
              exact .malformed hread
          | some settings =>
              simp only [loaded, hread]
              exact .taken hread

/-- A run after some deeds keeps the store that of the latest load. -/
theorem run_reflects {store : Store} {done : List Deed} (h : store.Reflects (latest done))
    (requests : List Request) (world : σ) :
    ((run files store requests).run world).1.1.Reflects
      (latest (done ++ ((run files store requests).run world).1.2)) := by
  induction requests generalizing store done world with
  | nil =>
      show store.Reflects (latest (done ++ []))
      rw [List.append_nil]
      exact h
  | cons request requests ih =>
      have hstep := (serve_served files store request world).reflects h
      have hrest := ih hstep ((serve files store request).run world).2
      rw [List.append_assoc] at hrest
      exact hrest

/-- After any loads and saves the store is the one that a new store becomes by loading the text of
the latest load that succeeded, and nothing else. A further request makes it the store of its own
text or leaves it. -/
theorem run_reflects_latest (requests : List Request) (world : σ) :
    let ((store, deeds), now) := (run files .initial requests).run world
    store.Reflects (latest deeds) ∧
    ∀ request, let ((after, deed), _) := (serve files store request).run now
      Served store request after deed ∧ after.Reflects (latest (deeds ++ [deed])) := by
  have hinitial : Reflects .initial (latest []) := ⟨rfl, rfl⟩
  have hrun := run_reflects files hinitial requests world
  refine ⟨hrun, fun request => ?_⟩
  have hserved := serve_served files ((run files .initial requests).run world).1.1 request
    ((run files .initial requests).run world).2
  exact ⟨hserved, hserved.reflects hrun⟩

end

end Store

end Probe

end PluginKit
