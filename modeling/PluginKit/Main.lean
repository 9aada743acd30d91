import PluginKit.Probe.Run

/-!
# `PluginKit.Main`: the program that inspects the headers

It reads the files and the environment and prints what the library answers.
-/

set_option autoImplicit false

namespace PluginKit

namespace Main

/-- The library's name for what went wrong with a file. -/
def fileError : IO.Error → FileError
  | .noFileOrDirectory .. => .notFound
  | .inappropriateType _ 20 _ => .notDirectory
  | .inappropriateType _ 21 _ => .isDirectory
  | e => .other (toString e)

/-- The content of a file. -/
def readBytes (path : String) : IO (Except FileError ByteArray) := do
  try return .ok (← IO.FS.readBinFile path)
  catch e => return .error (fileError e)

/-- The files of the system. What cannot be read is no file. -/
def files : Files IO where
  isFile path := return (← readBytes path).isOk
  present path := do
    match ← readBytes path with
    | .ok _ => return true
    | .error .isDirectory => return true
    | .error _ => return false
  read path := do
    match ← readBytes path with
    | .error e => return .error e
    | .ok bytes =>
      match String.fromUTF8? bytes with
      | some text => return .ok text
      | none => return .error .notText
  write path text := do
    try
      IO.FS.writeFile path text
      return .ok ()
    catch e => return .error (fileError e)

/-- The variables that the program looks at. -/
def variableNames : List String :=
  ["COLLECTD_PATH", "COLLECTD_54", "COLLECTD_VERSION", "CARGO_FEATURE_COLLECTD_54",
   "CARGO_FEATURE_COLLECTD_55", "CARGO_FEATURE_COLLECTD_57", "RUST_LOG"]

/-- The environment, as far as the program looks at it. -/
def environment : IO Header.Lookup := do
  let values ← variableNames.mapM fun v => return (v, ← IO.getEnv v)
  return fun v => (values.lookup v).join

end Main

end PluginKit

def main (arguments : List String) : IO UInt32 := do
  let printed ← PluginKit.Probe.run PluginKit.Main.files (← PluginKit.Main.environment) arguments
  (← IO.getStdout).putStr printed.stdout
  (← IO.getStderr).putStr printed.stderr
  return UInt32.ofNat printed.exit
