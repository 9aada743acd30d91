/-!
# `PluginKit.Text.Json`: texts in JSON documents

* `Json.quoted`: a text between quotes.
* `Json.array`, `Json.object`: their layouts over several lines.
-/

set_option autoImplicit false

namespace PluginKit

namespace Json

/-- How one character is written between quotes. Only quotes, backslashes and control characters are
escaped. -/
def escape (c : Char) : List Char :=
  match c with
  | '"' => ['\\', '"']
  | '\\' => ['\\', '\\']
  | '\x08' => ['\\', 'b']
  | '\t' => ['\\', 't']
  | '\n' => ['\\', 'n']
  | '\x0c' => ['\\', 'f']
  | '\r' => ['\\', 'r']
  | c =>
    if c.toNat < 0x20 then
      ['\\', 'u', '0', '0', if c.toNat < 0x10 then '0' else '1', Nat.digitChar (c.toNat % 16)]
    else [c]

/-- A text between quotes. -/
def quoted (s : String) : String := String.ofList ('"' :: s.toList.flatMap escape ++ ['"'])

/-- Written parts between brackets, one on a line, with a margin of two more blanks. -/
def lines (margin opening closing : String) (parts : List String) : String :=
  if parts.isEmpty then opening ++ closing
  else opening ++ "\n" ++ ",\n".intercalate (parts.map fun p => margin ++ "  " ++ p) ++
    "\n" ++ margin ++ closing

/-- An array of written elements. -/
def array (margin : String) (elements : List String) : String := lines margin "[" "]" elements

/-- An object of keys with written values. -/
def object (margin : String) (members : List (String × String)) : String :=
  lines margin "\x7b" "\x7d" (members.map fun m => quoted m.1 ++ ": " ++ m.2)

end Json

end PluginKit
