/-!
# `PluginKit.Path`: file paths as they are spelled

Paths are texts that keep their spelling. Two spellings name the same path when their components
agree, whatever the number of slashes between them.

* `Path.join`: a path below another.
* `Path.components`: what is compared.
* `Path.same`: equality of paths.
-/

set_option autoImplicit false

namespace PluginKit

namespace Path

/-- Whether a path starts at the root directory. -/
def isAbsolute (path : String) : Bool := path.toList.head? == some '/'

/-- A path below `root`. A slash goes between them unless one is there, and nothing stands for the
current directory. -/
def join (root part : String) : String :=
  if isAbsolute part || root.toList.isEmpty then part
  else if root.toList.getLast? == some '/' then root ++ part
  else root ++ "/" ++ part

/-- What stands between slashes. -/
def parts (path : String) : List String :=
  (path.toList.splitOnP (· == '/')).map String.ofList

/-- Whether a part leads somewhere. -/
def isStep (part : String) : Bool := part != "" && part != "."

/-- The names between slashes. A dot means the directory it stands in, so it is dropped, except at
the start of a relative path, where nothing else says that the path is meant literally. -/
def components (path : String) : List String :=
  match parts path with
  | "." :: rest => "." :: rest.filter isStep
  | all => all.filter isStep

/-- Whether two spellings name one path. -/
def same (a b : String) : Bool := isAbsolute a == isAbsolute b && components a == components b

end Path

end PluginKit
