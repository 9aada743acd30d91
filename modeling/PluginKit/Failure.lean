/-!
# `PluginKit.Failure`: errors with their causes

* `Failure`: a message with the messages of what caused it.
* `Failure.report`: all of them, for a terminal.
-/

set_option autoImplicit false

namespace PluginKit

/-- An error with its causes, nearest first. -/
structure Failure where
  message : String
  causes : List String
  deriving DecidableEq, Repr

namespace Failure

/-- An error without a cause. -/
def plain (message : String) : Failure := ⟨message, []⟩

/-- The error as the cause of another. -/
def context (message : String) (f : Failure) : Failure := ⟨message, f.message :: f.causes⟩

/-- The error's message and those of its causes. -/
def chain (f : Failure) : List String := f.message :: f.causes

/-- A cause with a number or a margin before it; its further lines keep the margin. -/
def indented (lead margin text : String) : String :=
  lead ++ ("\n" ++ margin).intercalate (text.splitOn "\n")

/-- The message, and below it the causes. A single cause has a margin, several are numbered. -/
def report (f : Failure) : String :=
  "Error: " ++ f.message ++
    (match f.causes with
      | [] => ""
      | [c] => "\n\nCaused by:\n" ++ indented "    " "    " c
      | cs => "\n\nCaused by:\n" ++ "\n".intercalate
          (cs.zipIdx.map fun c =>
            indented ("".pushn ' ' (5 - (toString c.2).length) ++ toString c.2 ++ ": ")
              "       " c.1)) ++ "\n"

end Failure

end PluginKit
