import PluginKit.Text.Utf8

/-!
# `PluginKit.Text.Bytes`: text that ends at its first zero byte

The daemon's texts end at their first zero byte. Some stand in fields of a fixed length, where the
last byte ends the text if no zero byte does.

* `Terminated.bytes`: what belongs to a text.
* `TextField`: a field of a fixed length; `TextField.ofBytes` fills one.
-/

set_option autoImplicit false

namespace PluginKit

/-- The bytes before the first zero byte. -/
def Terminated.bytes (raw : List UInt8) : List UInt8 := raw.takeWhile (· ≠ 0)

/-- A text field of `n` bytes. -/
structure TextField (n : Nat) where
  bytes : List UInt8
  length_eq : bytes.length = n
  deriving DecidableEq

namespace TextField

/-- Fills a field: what is too much is cut off, and zero bytes take the rest. -/
def ofBytes (n : Nat) (raw : List UInt8) : TextField n where
  bytes := raw.take n ++ List.replicate (n - raw.length) 0
  length_eq := by simp; omega

/-- The bytes of the text in a field. -/
def content {n : Nat} (f : TextField n) : List UInt8 := Terminated.bytes f.bytes

/-- The text in a field. -/
def decode {n : Nat} (f : TextField n) : Except Utf8.Fault String := Utf8.decode f.content

/-- The text in a field, with faulty parts replaced. -/
def decodeLossy {n : Nat} (f : TextField n) : String := Utf8.decodeLossy f.content

end TextField

/-- An empty text counts as none. -/
def nonEmptyText (s : String) : Option String := if s.isEmpty then none else some s

end PluginKit
