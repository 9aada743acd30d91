import PluginKit.Path

/-!
# `PluginKit.Header.Layout`: where the daemon's headers live

A plugin compiles against three facilities of the daemon. A layout says which headers provide them
and under which names they are included; exactly one layout follows from the build flags.

* `Layout.includes`, `Layout.header?`, `Layout.includeDirs`, `Layout.wrapper`: what a layout means.
* `Layout.locate`: the first search root that has each header.
* `Flags.ofLookup`, `Flags.layout`: the flags of a build and the layout they select.
-/

set_option autoImplicit false

namespace PluginKit

namespace Header

/-- What a plugin needs of the daemon. -/
inductive Facility where
  | optionParsing
  | pluginRegistration
  | metricsCache
  deriving DecidableEq, Repr

namespace Facility

def all : List Facility := [.optionParsing, .pluginRegistration, .metricsCache]

/-- The file that declares the facility. -/
def headerName : Facility → String
  | .optionParsing => "oconfig.h"
  | .pluginRegistration => "plugin.h"
  | .metricsCache => "utils_cache.h"

end Facility

/-- The known places of the headers: a source checkout, an installed 5.4, or a package. -/
inductive Layout where
  | sourceTree
  | core54
  | packaged
  deriving DecidableEq, Repr

/-- The build flags that decide on the layout. -/
structure Flags where
  collectdPath : Option String
  collectd54 : Bool
  deriving DecidableEq, Repr

/-- How a build or a shell answers for a variable; none means that it is unset. -/
abbrev Lookup := String → Option String

/-- The value of a variable that is set to something; an empty one counts as unset. -/
def nonEmpty (lookup : Lookup) (key : String) : Option String :=
  (lookup key).filter (· ≠ "")

namespace Flags

/-- Reads the flags. The version flag has a build feature and an alias. -/
def ofLookup (lookup : Lookup) : Flags where
  collectdPath := nonEmpty lookup "COLLECTD_PATH"
  collectd54 :=
    (nonEmpty lookup "CARGO_FEATURE_COLLECTD_54").isSome || (nonEmpty lookup "COLLECTD_54").isSome

/-- A path to the sources wins over the version flag. -/
def layout (flags : Flags) : Layout :=
  if flags.collectdPath.isSome then .sourceTree
  else if flags.collectd54 then .core54
  else .packaged

/-- Whether the version flag is set and has no effect. -/
def shadowed (flags : Flags) : Bool := flags.collectdPath.isSome && flags.collectd54

end Flags

/-- A name that is no layout's. -/
structure UnknownLayout where
  name : String
  deriving DecidableEq, Repr

def UnknownLayout.message (e : UnknownLayout) : String := "unknown header layout: " ++ e.name

/-- An include that no search root has. -/
structure Missing where
  header : String
  searched : List String
  deriving DecidableEq, Repr

/-- Names the header and the roots that were searched. -/
def Missing.message (e : Missing) : String :=
  "header <" ++ e.header ++ "> not found in " ++
    (if e.searched.isEmpty then "any search root (none given)"
     else ", ".intercalate e.searched)

namespace Layout

def all : List Layout := [.sourceTree, .core54, .packaged]

/-- The stable name. -/
def name : Layout → String
  | .sourceTree => "source-tree"
  | .core54 => "core54"
  | .packaged => "packaged"

/-- The layout of a name. -/
def ofName (s : String) : Except UnknownLayout Layout :=
  match all.find? fun l => l.name == s with
  | some l => .ok l
  | none => .error ⟨s⟩

/-- The headers in the order of inclusion. On 5.4 the option parser comes with `plugin.h`. -/
def includes : Layout → List String
  | .sourceTree => ["liboconfig/oconfig.h", "daemon/plugin.h", "daemon/utils_cache.h"]
  | .core54 => ["collectd/core/plugin.h", "collectd/core/utils_cache.h"]
  | .packaged =>
    ["collectd/liboconfig/oconfig.h", "collectd/core/daemon/plugin.h",
     "collectd/core/daemon/utils_cache.h"]

/-- The include that provides a facility; none when it comes with another one. -/
def header? (l : Layout) (f : Facility) : Option String :=
  l.includes.find? fun path => path.endsWith f.headerName

/-- The preprocessor definition that selects the layout. -/
def define? : Layout → Option String
  | .sourceTree => some "COLLECTD_PATH"
  | .core54 => some "COLLECTD_54"
  | .packaged => none

/-- The directories to search besides those of the system. Only a source checkout has any. -/
def includeDirs (l : Layout) (flags : Flags) : List String :=
  match l, flags.collectdPath with
  | .sourceTree, some root => [Path.join root "src", Path.join (Path.join root "src") "daemon"]
  | _, _ => []

/-- The header text that a compiler is given for the layout. -/
def wrapper (l : Layout) : String :=
  "/* collectd plugin headers: " ++ l.name ++ " layout */\n" ++
    String.join (l.includes.map fun path => "#include <" ++ path ++ ">\n")

/-- The path of one include under the first root that has it as a file. The file system is asked
root by root. -/
def locateIn {m : Type → Type} [Monad m] (isFile : String → m Bool) (path : String) :
    List String → m (Option String)
  | [] => pure none
  | root :: roots => do
    if ← isFile (Path.join root path) then pure (some (Path.join root path))
    else locateIn isFile path roots

/-- Finds every include of a list, up to the first one that no root has. -/
def locateAll {m : Type → Type} [Monad m] (isFile : String → m Bool) (roots : List String) :
    List String → m (Except Missing (List String))
  | [] => pure (.ok [])
  | path :: paths => do
    match ← locateIn isFile path roots with
    | none => pure (.error ⟨path, roots⟩)
    | some hit => return (hit :: ·) <$> (← locateAll isFile roots paths)

/-- Where the headers of a layout are. -/
def locate {m : Type → Type} [Monad m] (isFile : String → m Bool) (l : Layout)
    (roots : List String) : m (Except Missing (List String)) :=
  locateAll isFile roots l.includes

end Layout

end Header

end PluginKit
