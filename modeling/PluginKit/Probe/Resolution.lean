import PluginKit.Probe.Settings
import PluginKit.Text.Json
import PluginKit.Text.Quoted

/-!
# `PluginKit.Probe.Resolution`: the headers that a build would use

The command line, the settings and the environment are layers: what an upper one says hides what is
below.

* `layeredFlags`: the flags of all layers.
* `Resolution.resolve`: the layout and the interface generation that follow.
* `Resolution.render`: the result in a format.
* `searchRoots`: where to look for the headers.
-/

set_option autoImplicit false

namespace PluginKit

namespace Probe

open Header

/-- What the command line says about the layout. -/
structure Overrides where
  collectdPath : Option String
  collectd54 : Bool
  version : Option String
  deriving DecidableEq, Repr

/-- The path of the uppermost layer that has one; the version flag of any layer counts. -/
def layeredFlags (env : Flags) (settings : Settings) (overrides : Overrides) : Flags where
  collectdPath := overrides.collectdPath <|> settings.collectdPath <|> env.collectdPath
  collectd54 := overrides.collectd54 || settings.collectd54 || env.collectd54

/-- The headers of a build. -/
structure Resolution where
  layout : Layout
  version : Version
  shadowed : Bool
  includeDirs : List String
  deriving DecidableEq, Repr

namespace Resolution

/-- The environment with a release of the upper layers in the place of its own. -/
def withVersion (lookup : Lookup) (version : Option String) : Lookup := fun key =>
  if key = "COLLECTD_VERSION" then version <|> lookup key else lookup key

/-- What follows from the flags. The release is that of the uppermost layer that has one. -/
def resolve (flags : Flags) (settings : Settings) (overrides : Overrides) (lookup : Lookup) :
    Except UnknownVersion Resolution := do
  let version ← Version.resolve (withVersion lookup (overrides.version <|> settings.version))
    flags.layout
  return {
    layout := flags.layout
    version := version
    shadowed := flags.shadowed
    includeDirs := flags.layout.includeDirs flags }

def includes (r : Resolution) : List String := r.layout.includes

def define? (r : Resolution) : Option String := r.layout.define?

/-! ### Printing -/

/-- The fields with their written values. -/
def members (r : Resolution) : List (String × String) :=
  [("layout", Json.quoted r.layout.name),
   ("abi_version", Json.quoted r.version.name),
   ("name_len", toString r.version.nameLength),
   ("shadowed", if r.shadowed then "true" else "false"),
   ("define", (r.define?.map Json.quoted).getD "null"),
   ("includes", Json.array "  " (r.includes.map Json.quoted)),
   ("include_dirs", Json.array "  " (r.includeDirs.map Json.quoted))]

/-- The flags for a compiler. -/
def flags (r : Resolution) : List String :=
  (r.define?.map fun d => "-D" ++ d).toList ++ r.includeDirs.map fun d => "-I" ++ d

def cflags (r : Resolution) : String := " ".intercalate r.flags

/-- Lines with a name and a value each. -/
def text (r : Resolution) : String :=
  "layout:      " ++ r.layout.name ++ "\n" ++
  "abi:         " ++ r.version.name ++ " (name length " ++ toString r.version.nameLength ++ ")\n" ++
  "define:      " ++ r.define?.getD "(none)" ++ "\n" ++
  String.join (r.includes.map fun i => "include:     <" ++ i ++ ">\n") ++
  String.join (r.includeDirs.map fun d => "search dir:  " ++ d ++ "\n") ++
  (if r.shadowed then "warning:     collectd-54 is shadowed by COLLECTD_PATH\n" else "")

/-- The result in a format. -/
def render (r : Resolution) : Format → String
  | .text => r.text
  | .json => Json.object "" r.members
  | .cflags => r.cflags

/-- The result on one line of a log. -/
def summary (r : Resolution) : String :=
  let list := fun (items : List String) => "[" ++ ", ".intercalate (items.map Quoted.render) ++ "]"
  "Resolution \x7b layout: " ++ Quoted.render r.layout.name ++
    ", abi_version: " ++ Quoted.render r.version.name ++
    ", name_len: " ++ toString r.version.nameLength ++
    ", shadowed: " ++ (if r.shadowed then "true" else "false") ++
    ", define: " ++ (match r.define? with
      | some d => "Some(" ++ Quoted.render d ++ ")"
      | none => "None") ++
    ", includes: " ++ list r.includes ++
    ", include_dirs: " ++ list r.includeDirs ++ " \x7d"

end Resolution

/-- Adds a root unless it is there in some spelling. -/
def addRoot (roots : List String) (root : String) : List String :=
  if roots.any (Path.same root) then roots else roots ++ [root]

/-- Where to look for headers: first the layout's own directories, then the roots of the settings,
then further ones. -/
def searchRoots (layout : Layout) (flags : Flags) (settings : Settings) (further : List String) :
    List String :=
  (settings.searchRoots ++ further).foldl addRoot (layout.includeDirs flags)

end Probe

end PluginKit
