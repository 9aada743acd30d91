import PluginKit.Path

/-!
# `PluginKit.Files`: files by their paths

A program that reads and writes a few files is given the operations that it needs, so that it runs
on a disk as well as on a tree of files in memory.

* `Files`: the operations.
* `FileTree`: a directory in memory; `FileTree.files` are the operations on it.
-/

set_option autoImplicit false

namespace PluginKit

/-- Why a file cannot be read or written. -/
inductive FileError where
  | notFound
  | notDirectory
  | isDirectory
  | notText
  | other (message : String)
  deriving DecidableEq, Repr

def FileError.message : FileError → String
  | .notFound => "No such file or directory (os error 2)"
  | .notDirectory => "Not a directory (os error 20)"
  | .isDirectory => "Is a directory (os error 21)"
  | .notText => "stream did not contain valid UTF-8"
  | .other message => message

/-- What a program does with files. -/
structure Files (m : Type → Type) where
  /-- Whether there is a file, not a directory. -/
  isFile : String → m Bool
  /-- Whether there is anything. -/
  present : String → m Bool
  read : String → m (Except FileError String)
  write : String → String → m (Except FileError Unit)

/-- A directory with what lies below it, by the names on the way. Directories have no text. -/
structure FileTree where
  nodes : List (List String × Option String)
  deriving DecidableEq, Repr

namespace FileTree

/-- What a path leads to. -/
inductive Target where
  | directory (names : List String)
  | file (names : List String) (text : String)
  /-- Nothing, in a directory that is there. -/
  | free (names : List String)
  | error (e : FileError)
  deriving DecidableEq, Repr

/-- What is under a row of names. The top is always a directory. -/
def look (t : FileTree) (names : List String) : Target :=
  if names.isEmpty then .directory []
  else
    match t.nodes.lookup names with
    | some none => .directory names
    | some (some text) => .file names text
    | none => .free names

/-- Follows the parts of a path from where it stands. The top has nothing above it and counts as its
own parent. -/
def walk (t : FileTree) : Target → List String → Target
  | target, [] => target
  | .directory names, part :: rest =>
    if !Path.isStep part then walk t (.directory names) rest
    else if part = ".." then walk t (.directory names.dropLast) rest
    else walk t (t.look (names ++ [part])) rest
  | .file _ _, _ :: _ => .error .notDirectory
  | .free _, _ :: _ => .error .notFound
  | .error e, _ :: _ => .error e

/-- What a path leads to from the top. The root of the system is a directory with nothing in it. -/
def resolve (t : FileTree) (path : String) : Target :=
  if path.isEmpty then .error .notFound
  else if Path.isAbsolute path then
    if path.toList.all (· == '/') then .directory [] else .error .notFound
  else walk t (.directory []) (Path.parts path)

def isFile (t : FileTree) (path : String) : Bool :=
  match t.resolve path with
  | .file .. => true
  | _ => false

def present (t : FileTree) (path : String) : Bool :=
  match t.resolve path with
  | .file .. => true
  | .directory _ => true
  | _ => false

def read (t : FileTree) (path : String) : Except FileError String :=
  match t.resolve path with
  | .file _ text => .ok text
  | .directory _ => .error .isDirectory
  | .free _ => .error .notFound
  | .error e => .error e

/-- Puts a text or a directory under a row of names. -/
def put (t : FileTree) (names : List String) (content : Option String) : FileTree :=
  ⟨(t.nodes.filter fun n => n.1 ≠ names) ++ [(names, content)]⟩

/-- A path without the slashes at its end. The root keeps one. -/
def withoutSlash (path : String) : String :=
  if path.toList.all (· == '/') then path
  else String.ofList (path.toList.reverse.dropWhile (· == '/')).reverse

/-- Writes a file in a directory that is there. With a slash at its end a path can only be meant for
a directory. -/
def write (t : FileTree) (path text : String) : Except FileError FileTree :=
  match t.resolve (withoutSlash path) with
  | .error e => .error e
  | .directory _ => .error .isDirectory
  | .file names _ | .free names =>
    if path.toList.getLast? == some '/' then .error .isDirectory else .ok (t.put names (some text))

/-- Adds a file or a directory, and the directories on the way to it. -/
def add (t : FileTree) (path : String) (content : Option String) : FileTree :=
  let names := (Path.parts path).filter Path.isStep
  let above := (List.range names.length).map fun n => names.take n
  let t := above.foldl
    (fun t dir => if dir.isEmpty ∨ (t.nodes.lookup dir).isSome then t else t.put dir none) t
  if content.isNone ∧ (t.nodes.lookup names).isSome then t else t.put names content

/-- The tree of some files and directories. -/
def ofList (files : List (String × Option String)) : FileTree :=
  files.foldl (fun t f => t.add f.1 f.2) ⟨[]⟩

/-- The operations on a tree in memory. -/
def files : Files (StateM FileTree) where
  isFile path := return (← get).isFile path
  present path := return (← get).present path
  read path := return (← get).read path
  write path text := do
    match (← get).write path text with
    | .ok t => set t; return .ok ()
    | .error e => return .error e

end FileTree

end PluginKit
