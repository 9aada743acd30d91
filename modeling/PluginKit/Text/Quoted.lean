import PluginKit.Text.Unprintable

/-!
# `PluginKit.Text.Quoted`: text between quotes, with nothing invisible in it

Names that turn up in diagnostics are shown between double quotes with every character visible.

* `Quoted.escape`: the written form of one character.
* `Quoted.render`: a text between quotes.
-/

set_option autoImplicit false

namespace PluginKit

namespace Quoted

/-- A character by its code point, in lower-case hexadecimal without leading zeros. -/
def codePoint (c : Char) : List Char :=
  ['\\', 'u', '\x7b'] ++ Nat.toDigits 16 c.toNat ++ ['\x7d']

/-- How one character is written between quotes. Single quotes stay, as the text stands between
double ones. -/
def escape (c : Char) : List Char :=
  match c with
  | '\x00' => ['\\', '0']
  | '\t' => ['\\', 't']
  | '\r' => ['\\', 'r']
  | '\n' => ['\\', 'n']
  | '"' => ['\\', '"']
  | '\\' => ['\\', '\\']
  | c =>
    if Text.isUnprintable c then codePoint c else [c]

/-- A text between double quotes. -/
def render (s : String) : String :=
  String.ofList ('"' :: s.toList.flatMap escape ++ ['"'])

end Quoted

end PluginKit
