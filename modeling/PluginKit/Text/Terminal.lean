import PluginKit.Text.Quoted

/-!
# `PluginKit.Text.Terminal`: text that cannot drive a terminal

A terminal takes some control characters for commands. Where a text comes from outside, they are
spelled out, so that it cannot change what stands on the screen. Line ends and the other control
characters stay as they are.

* `Terminal.escape`: how one character is shown.
* `Terminal.shown`: a text without commands.
-/

set_option autoImplicit false

namespace PluginKit

namespace Terminal

/-- The ASCII characters that a terminal acts on: bell, backspace, form feed, escape and delete. -/
def commands : List Char := ['\x07', '\x08', '\x0c', '\x1b', '\x7f']

/-- Whether a character is one of the commands of eight bits, which stand for an escape and a
letter. -/
def isWideCommand (c : Char) : Bool := 0x80 ≤ c.toNat && c.toNat ≤ 0x9F

/-- How one character is shown. -/
def escape (c : Char) : List Char :=
  if c ∈ commands then
    ['\\', 'x', Nat.digitChar (c.toNat / 16), Nat.digitChar (c.toNat % 16)]
  else if isWideCommand c then Quoted.codePoint c
  else [c]

/-- A text without commands. -/
def shown (s : String) : String := String.ofList (s.toList.flatMap escape)

end Terminal

end PluginKit
