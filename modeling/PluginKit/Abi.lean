import PluginKit.Header.Version
import PluginKit.Text.Utf8

/-!
# `PluginKit.Abi`: the interface a plugin is built for

Everything in which two builds of one plugin differ is in one record.

* `Abi.current`: the interface of 5.7 and later.
* `Abi.legacy`: the interface of 5.4.
-/

set_option autoImplicit false

namespace PluginKit

/-- How the daemon wants the read interval of a plugin that has none of its own. -/
inductive DefaultInterval where
  /-- A time of zero. -/
  | zero
  /-- No time at all. -/
  | absent
  deriving DecidableEq, Repr

/-- The parameters of a build. -/
structure Abi where
  version : Header.Version
  layout : Header.Layout
  /-- The host a value list starts out with; newer daemons fill in an empty one. -/
  defaultHost : String
  /-- The largest length that a list can declare. -/
  maxCount : Nat
  defaultInterval : DefaultInterval
  /-- The daemon's host stands in a text field, with room for the zero byte after it. -/
  hostRoom : (Utf8.encode defaultHost).length < version.nameLength
  hostZeroFree : 0 ∉ Utf8.encode defaultHost
  deriving DecidableEq, Repr

namespace Abi

/-- The length of a fixed text field. -/
def nameLength (abi : Abi) : Nat := abi.version.nameLength

/-- 5.7 and later. -/
def current : Abi where
  version := .v57
  layout := .packaged
  defaultHost := ""
  maxCount := UInt64.size - 1
  defaultInterval := .zero
  hostRoom := by decide
  hostZeroFree := by decide

/-- 5.4. -/
def legacy : Abi where
  version := .v54
  layout := .core54
  defaultHost := "localhost"
  maxCount := 0x7FFFFFFF
  defaultInterval := .absent
  hostRoom := by decide
  hostZeroFree := by decide

end Abi

end PluginKit
