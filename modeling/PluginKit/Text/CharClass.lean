/-!
# `PluginKit.Text.CharClass`: blank and control characters

Blank characters are those with the Unicode property White_Space, control characters those of
general category Cc. Both sets are closed: the property has not changed since Unicode 6.3 and the
category cannot change.

* `isBlank`, `isControl`: the two classes.
* `trim`: a text without the blank characters at its ends.
* `words`: the parts of a text between blank characters.
-/

set_option autoImplicit false

namespace PluginKit

namespace Text

/-- Whether a code point lies in one of a list of closed ranges. -/
def inRanges (ranges : List (Nat × Nat)) (n : Nat) : Bool :=
  ranges.any fun r => r.1 ≤ n && n ≤ r.2

/-- The code points with the property White_Space. -/
def blankRanges : List (Nat × Nat) :=
  [(0x09, 0x0D), (0x20, 0x20), (0x85, 0x85), (0xA0, 0xA0), (0x1680, 0x1680), (0x2000, 0x200A),
   (0x2028, 0x2029), (0x202F, 0x202F), (0x205F, 0x205F), (0x3000, 0x3000)]

/-- Whether a character is white space. -/
def isBlank (c : Char) : Bool := inRanges blankRanges c.toNat

/-- Whether a character is a control character. -/
def isControl (c : Char) : Bool := c.toNat < 0x20 || (0x7F ≤ c.toNat && c.toNat ≤ 0x9F)

/-- The characters between the first and the last one that is not blank. -/
def trimChars (cs : List Char) : List Char :=
  ((cs.dropWhile isBlank).reverse.dropWhile isBlank).reverse

/-- A text without the blank characters at its ends. -/
def trim (s : String) : String := String.ofList (trimChars s.toList)

/-- The non-empty runs of characters that are not blank. -/
def words (cs : List Char) : List (List Char) :=
  (cs.splitOnP isBlank).filter (· ≠ [])

/-- A lower-case ASCII letter's upper-case form; every other character stays. -/
def upperAscii (s : String) : String := String.ofList (s.toList.map Char.toUpper)

end Text

end PluginKit
