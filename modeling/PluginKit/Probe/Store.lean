import PluginKit.Failure
import PluginKit.Files
import PluginKit.Probe.SettingsText

/-!
# `PluginKit.Probe.Store`: settings and where they came from

* `Store.load`: takes over the settings of a file; if that fails, everything stays as it was.
* `Store.save`: writes the settings to a file and changes nothing here.
-/

set_option autoImplicit false

namespace PluginKit

namespace Probe

/-- The settings in force, and the file that they were loaded from. -/
structure Store where
  settings : Settings
  source : Option String
  deriving DecidableEq, Repr

/-- Why settings cannot be loaded or saved. -/
inductive StoreError where
  | unreadable (path : String) (e : FileError)
  | malformed
  | unwritable (path : String) (e : FileError)
  deriving DecidableEq, Repr

/-- The error with its cause. Where in a document it goes wrong is not told. -/
def StoreError.failure : StoreError → Failure
  | .unreadable path e => ⟨"Failed to read config file: " ++ path, [e.message]⟩
  | .malformed => ⟨"Failed to parse config file", ["TOML parse error"]⟩
  | .unwritable path e => ⟨"Failed to write config file: " ++ path, [e.message]⟩

namespace Store

def initial : Store := ⟨.initial, none⟩

/-- What becomes of a store when a file with a given content is loaded. -/
def loaded (store : Store) (path : String) :
    Except FileError String → Store × Except StoreError Unit
  | .error e => (store, .error (.unreadable path e))
  | .ok document =>
    match Settings.read document with
    | none => (store, .error .malformed)
    | some settings => (⟨settings, some path⟩, .ok ())

/-- Takes over the settings of a file. -/
def load {m : Type → Type} [Monad m] (files : Files m) (store : Store) (path : String) :
    m (Store × Except StoreError Unit) :=
  return store.loaded path (← files.read path)

/-- Writes the settings to a file. -/
def save {m : Type → Type} [Monad m] (files : Files m) (store : Store) (path : String) :
    m (Except StoreError Unit) := do
  match ← files.write path store.settings.write with
  | .ok () => return .ok ()
  | .error e => return .error (.unwritable path e)

end Store

end Probe

end PluginKit
