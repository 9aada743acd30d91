import PluginKit.Probe.Settings
import PluginKit.Toml.Document

/-!
# `PluginKit.Probe.SettingsText`: settings as a document

The settings have four sections. What a document leaves out is as without a file, and what it has
besides is ignored.

* `Settings.read`: reads a document.
* `Settings.write`: writes all settings, so that they are read back.
-/

set_option autoImplicit false

namespace PluginKit

namespace Probe

open Toml

namespace Settings

/-! ### Reading -/

/-- What a section says, by field: a table by its keys, an array by their order. A date has none of
the fields; any other value is no section. -/
def fields? (names : List String) : Option Value → Option (String → Option Value)
  | none => some fun _ => none
  | some (.table _ entries) => some fun k => entries.lookup k
  | some (.array items) => some fun k => (names.zip items).lookup k
  | some (.tables items) => some fun k => (names.zip (items.map (Value.table .header))).lookup k
  | some (.datetime _) => some fun _ => none
  | some _ => none

/-- A field, or what stands for it when it is not given. -/
def field? {α : Type} (read : Value → Option α) (otherwise : α) : Option Value → Option α
  | none => some otherwise
  | some v => read v

def text? : Value → Option String
  | .text s => some s
  | _ => none

def boolean? : Value → Option Bool
  | .boolean b => some b
  | _ => none

def texts? : Value → Option (List String)
  | .array items => items.mapM text?
  | _ => none

/-- Whether a value is an array or a table without anything in it. -/
def isEmptyValue : Value → Bool
  | .array [] => true
  | .tables [] => true
  | .table _ [] => true
  | _ => false

/-- A format by its name, which may also be the only key of a table with nothing under it. -/
def format? : Value → Option Format
  | .text s => Format.ofName? s
  | .table _ [(name, v)] => if isEmptyValue v then Format.ofName? name else none
  | _ => none

/-- The settings of a document's table. -/
def ofTable? (t : Table) : Option Settings := do
  let headers ← fields? ["collectd_path", "collectd_54", "search_roots"] (t.lookup "headers")
  let abi ← fields? ["version"] (t.lookup "abi")
  let output ← fields? ["format"] (t.lookup "output")
  let logging ← fields? ["level"] (t.lookup "logging")
  return {
    collectdPath := ← field? (fun v => (text? v).map some) none (headers "collectd_path")
    collectd54 := ← field? boolean? initial.collectd54 (headers "collectd_54")
    searchRoots := ← field? texts? initial.searchRoots (headers "search_roots")
    version := ← field? (fun v => (text? v).map some) none (abi "version")
    format := ← field? format? initial.format (output "format")
    level := ← field? text? initial.level (logging "level") }

/-- Reads a document; none if it is no document or a value does not fit. -/
def read (document : String) : Option Settings := (Document.read document).bind ofTable?

/-! ### Writing -/

def writeText (s : String) : List Char := Toml.Text.write s.toList

/-- An array on one line if it has at most one element, otherwise with one element on each line. -/
def writeTexts : List String → List Char
  | [] => ['[', ']']
  | [s] => '[' :: writeText s ++ [']']
  | texts => '[' :: '\n' ::
      texts.flatMap (fun s => "    ".toList ++ writeText s ++ [',', '\n']) ++ [']']

/-- A line with a value under a key. -/
def writeLine (key : String) (value : List Char) : List Char :=
  key.toList ++ [' ', '=', ' '] ++ value ++ ['\n']

/-- The line of a text that is given. -/
def writeOption (key : String) : Option String → List Char
  | none => []
  | some s => writeLine key (writeText s)

def writeHeader (name : String) : List Char := '[' :: name.toList ++ [']', '\n']

/-- The characters of the document. -/
def writeChars (s : Settings) : List Char :=
  writeHeader "headers" ++
    writeOption "collectd_path" s.collectdPath ++
    writeLine "collectd_54" (if s.collectd54 then "true" else "false").toList ++
    writeLine "search_roots" (writeTexts s.searchRoots) ++
  ['\n'] ++ writeHeader "abi" ++
    writeOption "version" s.version ++
  ['\n'] ++ writeHeader "output" ++
    writeLine "format" (writeText s.format.name) ++
  ['\n'] ++ writeHeader "logging" ++
    writeLine "level" (writeText s.level)

/-- Writes all settings. -/
def write (s : Settings) : String := String.ofList s.writeChars

end Settings

end Probe

end PluginKit
