import PluginKit.Header.Layout
import PluginKit.Number.Word
import PluginKit.Text.CharClass

/-!
# `PluginKit.Header.Version`: which generation of the interface a build speaks

The daemon changed its records with 5.5 and 5.7. A release belongs to one of three generations.

* `Version.parse`: the generation of a release number.
* `Version.resolve`: the generation of a build; features win over a release number, and without
  either the layout decides.
-/

set_option autoImplicit false

namespace PluginKit

namespace Header

/-- A generation of the plugin interface, named for its first release. -/
inductive Version where
  | v54
  | v55
  | v57
  deriving DecidableEq, Repr

/-- A release number that belongs to no generation. -/
structure UnknownVersion where
  text : String
  deriving DecidableEq, Repr

def UnknownVersion.message (e : UnknownVersion) : String :=
  "unsupported collectd version: " ++ e.text

namespace Version

def name : Version → String
  | .v54 => "5.4"
  | .v55 => "5.5"
  | .v57 => "5.7"

/-- The generation of release `major.minor`. 5.6 shares the records of 5.5, and everything from 5.7
on those of 5.7. -/
def ofRelease (major minor : Nat) : Option Version :=
  if major = 5 then
    if minor < 4 then none
    else if minor = 4 then some .v54
    else if minor < 7 then some .v55
    else some .v57
  else none

/-- Reads `major.minor`, with anything after a second dot. Both numbers fit 32 bits. -/
def parse (text : String) : Option Version :=
  match (Text.trimChars text.toList).splitOnP (· = '.') with
  | major :: minor :: _ => do
    let major ← Word.readUpTo? (UInt32.size - 1) major
    let minor ← Word.readUpTo? (UInt32.size - 1) minor
    ofRelease major minor
  | _ => none

/-- The build features that fix a generation, newest first. -/
def features : List (String × Version) :=
  [("CARGO_FEATURE_COLLECTD_57", .v57), ("CARGO_FEATURE_COLLECTD_55", .v55),
   ("CARGO_FEATURE_COLLECTD_54", .v54)]

/-- The generation of a build for a layout. -/
def resolve (lookup : Lookup) (layout : Layout) : Except UnknownVersion Version :=
  match features.find? fun f => (nonEmpty lookup f.1).isSome with
  | some f => .ok f.2
  | none =>
    match nonEmpty lookup "COLLECTD_VERSION" with
    | some text =>
      match parse text with
      | some v => .ok v
      | none => .error ⟨text⟩
    | none => .ok (if layout = .core54 then .v54 else .v57)

/-- The length of a fixed text field. -/
def nameLength : Version → Nat
  | .v57 => 128
  | .v54 | .v55 => 64

end Version

end Header

end PluginKit
