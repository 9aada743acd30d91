import PluginKit.Number.Hex

/-!
# `PluginKit.Toml.Text`: texts in TOML documents

A text is written between double quotes with escapes, or between single quotes as it is; three
quotes instead of one let it run over several lines.

* `Text.read`: reads a written text and leaves what follows it.
* `Text.write`: writes a text in the form that needs the fewest escapes.
-/

set_option autoImplicit false

namespace PluginKit

namespace Toml

/-- The characters that may stand for themselves: the tab and everything that is no control
character of ASCII. -/
def isPlain (c : Char) : Bool := c == '\t' || (0x20 ≤ c.toNat && c.toNat != 0x7F)

namespace Text

/-! ### Reading -/

/-- What stands after a backslash. -/
def escape : List Char → Option (Char × List Char)
  | 'b' :: rest => some ('\x08', rest)
  | 't' :: rest => some ('\t', rest)
  | 'n' :: rest => some ('\n', rest)
  | 'f' :: rest => some ('\x0c', rest)
  | 'r' :: rest => some ('\r', rest)
  | '"' :: rest => some ('"', rest)
  | '\\' :: rest => some ('\\', rest)
  | 'u' :: rest => Hex.codePoint? 4 rest
  | 'U' :: rest => Hex.codePoint? 8 rest
  | _ => none

/-- Reads up to a double quote, with escapes. `fuel` bounds the number of characters. -/
def basic : Nat → List Char → Option (List Char × List Char)
  | 0, _ => none
  | fuel + 1, s =>
    match s with
    | [] => none
    | '"' :: rest => some ([], rest)
    | '\\' :: rest => do
      let (c, rest) ← escape rest
      let (cs, rest) ← basic fuel rest
      return (c :: cs, rest)
    | c :: rest =>
      if isPlain c then do
        let (cs, rest) ← basic fuel rest
        return (c :: cs, rest)
      else none

/-- Reads up to a single quote. -/
def literal : List Char → Option (List Char × List Char)
  | [] => none
  | '\'' :: rest => some ([], rest)
  | c :: rest =>
    if isPlain c then do
      let (cs, rest) ← literal rest
      return (c :: cs, rest)
    else none

/-- What follows a line break, if one stands here. -/
def newline? : List Char → Option (List Char)
  | '\n' :: rest => some rest
  | '\r' :: '\n' :: rest => some rest
  | _ => none

/-- Leaves out a line break right after the opening quotes. -/
def skipNewline (s : List Char) : List Char := (newline? s).getD s

def isSpace (c : Char) : Bool := c == ' ' || c == '\t'

/-- What follows a row of blanks and line breaks, where at least one line break has to come first.
`fuel` bounds the number of lines. -/
def skipLines : Nat → List Char → Option (List Char)
  | 0, _ => none
  | fuel + 1, s =>
    match newline? (s.dropWhile isSpace) with
    | none => none
    | some rest => some ((skipLines fuel rest).getD (rest.dropWhile isSpace))

/-- After three closing quotes: up to two more belong to the text. -/
def closing (q : Char) : List Char → List Char × List Char
  | a :: b :: rest =>
    if a = q ∧ b = q then ([q, q], rest)
    else if a = q then ([q], b :: rest)
    else ([], a :: b :: rest)
  | [a] => if a = q then ([q], []) else ([], [a])
  | [] => ([], [])

/-- Reads up to three double quotes, with escapes and line breaks. A backslash at the end of a line
takes the blanks and line breaks after it away. -/
def basicLines : Nat → List Char → Option (List Char × List Char)
  | 0, _ => none
  | fuel + 1, s =>
    match s with
    | [] => none
    | '"' :: '"' :: '"' :: rest => some (closing '"' rest)
    | '\\' :: rest =>
      match skipLines rest.length rest with
      | some rest => basicLines fuel rest
      | none => do
        let (c, rest) ← escape rest
        let (cs, rest) ← basicLines fuel rest
        return (c :: cs, rest)
    | c :: rest =>
      match newline? (c :: rest) with
      | some rest => do
        let (cs, rest) ← basicLines fuel rest
        return ('\n' :: cs, rest)
      | none =>
        if isPlain c then do
          let (cs, rest) ← basicLines fuel rest
          return (c :: cs, rest)
        else none

/-- Reads up to three single quotes. -/
def literalLines : Nat → List Char → Option (List Char × List Char)
  | 0, _ => none
  | fuel + 1, s =>
    match s with
    | [] => none
    | '\'' :: '\'' :: '\'' :: rest => some (closing '\'' rest)
    | c :: rest =>
      match newline? (c :: rest) with
      | some rest => do
        let (cs, rest) ← literalLines fuel rest
        return ('\n' :: cs, rest)
      | none =>
        if isPlain c then do
          let (cs, rest) ← literalLines fuel rest
          return (c :: cs, rest)
        else none

/-- Reads a text on one line. -/
def readLine : List Char → Option (List Char × List Char)
  | '"' :: rest => basic (rest.length + 1) rest
  | '\'' :: rest => literal rest
  | _ => none

/-- Reads a text in any form. -/
def read : List Char → Option (List Char × List Char)
  | '"' :: '"' :: '"' :: rest => basicLines (rest.length + 1) (skipNewline rest)
  | '\'' :: '\'' :: '\'' :: rest => literalLines (rest.length + 1) (skipNewline rest)
  | s => readLine s

/-! ### Writing -/

/-- Whether a character can be written only as an escape. The tab and the line break have other
means. -/
def needsEscape (c : Char) : Bool := !isPlain c && c != '\n'

/-- The length of the longest row of one character. -/
def longestRun (q : Char) : Nat → Nat → List Char → Nat
  | _, longest, [] => longest
  | here, longest, c :: cs =>
    if c = q then longestRun q (here + 1) (max longest (here + 1)) cs
    else longestRun q 0 longest cs

/-- Four upper-case hexadecimal digits. -/
def hexDigits (n : Nat) : List Char :=
  let digits := (Nat.toDigits 16 n).map Char.toUpper
  List.replicate (4 - digits.length) '0' ++ digits

/-- A character as an escape, if it has or needs one. Where lines may break, the line break stands
for itself. -/
def escaped? (lines : Bool) (c : Char) : Option (List Char) :=
  if c = '\x08' then some ['\\', 'b']
  else if c = '\t' then some ['\\', 't']
  else if c = '\n' then if lines then none else some ['\\', 'n']
  else if c = '\x0c' then some ['\\', 'f']
  else if c = '\r' then some ['\\', 'r']
  else if c = '\\' then some ['\\', '\\']
  else if isPlain c then none
  else some ('\\' :: 'u' :: hexDigits c.toNat)

/-- Text between double quotes. `quotes` double quotes may still stand in a row without an escape;
after any other character it is `most` again. -/
def escapeText (lines : Bool) (most : Nat) : Nat → List Char → List Char
  | _, [] => []
  | quotes, c :: cs =>
    if c = '"' then
      match quotes with
      | 0 => '\\' :: '"' :: escapeText lines most most cs
      | quotes + 1 => '"' :: escapeText lines most quotes cs
    else
      match escaped? lines c with
      | some e => e ++ escapeText lines most most cs
      | none => c :: escapeText lines most most cs

/-- The forms of a written text. -/
inductive Form where
  | basic
  | literal
  | basicLines
  | literalLines
  deriving DecidableEq, Repr

/-- The form for a text: the first that needs no escapes, of one line before several and of double
before single quotes; and if there is none, double quotes with escapes. -/
def form (s : List Char) : Form :=
  let escapes := s.any needsEscape
  let backslash := s.contains '\\'
  let breaks := s.contains '\n'
  let double := longestRun '"' 0 0 s
  let single := longestRun '\'' 0 0 s
  if !escapes && !backslash && double == 0 && !breaks then .basic
  else if !escapes && single == 0 && !breaks then .literal
  else if !escapes && !backslash && double ≤ 2 then .basicLines
  else if !escapes && single ≤ 2 then .literalLines
  else if breaks then .basicLines
  else .basic

/-- A line break for a text with line breaks, so that it starts on a line of its own. -/
def opening (s : List Char) : List Char := if s.contains '\n' then ['\n'] else []

/-- Writes a text. -/
def write (s : List Char) : List Char :=
  match form s with
  | .basic => '"' :: escapeText false 0 0 s ++ ['"']
  | .literal => '\'' :: s ++ ['\'']
  | .basicLines => ['"', '"', '"'] ++ opening s ++ escapeText true 2 2 s ++ ['"', '"', '"']
  | .literalLines => ['\'', '\'', '\''] ++ opening s ++ s ++ ['\'', '\'', '\'']

end Text

end Toml

end PluginKit
