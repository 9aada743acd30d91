/-!
# `PluginKit.Text.Utf8`: bytes to text and back

The daemon hands over text as bytes. This module reads them one byte at a time: a scalar value is
either whole after its first byte or owes continuation bytes, and `Pending` says which bytes may
still follow. A byte that cannot follow, and the end of the input inside a scalar value, are the two
ways in which bytes fail to be text (`Utf8.Fault`).

* `Utf8.decode` accepts exactly well-formed text and names the first fault otherwise.
* `Utf8.decodeLossy` puts one replacement character in the place of each faulty part.
* `Utf8.encode` is the inverse of `decode`.
-/

set_option autoImplicit false

namespace PluginKit

namespace Utf8

/-- Where bytes stop being text: how many of them are well formed, and how many bytes after those
are known to be wrong. No length means that the input ends inside a scalar value. -/
structure Fault where
  validUpTo : Nat
  length : Option Nat
  deriving DecidableEq, Repr

/-- The wording of a fault. -/
def Fault.message (f : Fault) : String :=
  match f.length with
  | some n => "invalid utf-8 sequence of " ++ toString n ++ " bytes from index " ++
      toString f.validUpTo
  | none => "incomplete utf-8 byte sequence from index " ++ toString f.validUpTo

/-- A scalar value whose first bytes have been read: how many bytes came, how many are owed, the
range of the next one, and the bits collected so far. -/
structure Pending where
  seen : Nat
  owed : Nat
  low : Nat
  high : Nat
  bits : Nat
  deriving DecidableEq, Repr

/-- What the first byte of a scalar value says. -/
inductive Lead where
  /-- The byte is a scalar value by itself. -/
  | whole (c : Char)
  /-- More bytes have to follow. -/
  | opens (p : Pending)
  /-- No scalar value starts with this byte. -/
  | refused
  deriving DecidableEq, Repr

/-- Reads a first byte. The narrowed ranges after `E0`, `ED`, `F0` and `F4` keep out overlong
forms, surrogates and values past the last plane. -/
def lead (byte : UInt8) : Lead :=
  let b := byte.toNat
  if b < 0x80 then .whole (Char.ofNat b)
  else if b < 0xC2 then .refused
  else if b < 0xE0 then .opens ⟨1, 1, 0x80, 0xBF, b - 0xC0⟩
  else if b < 0xF0 then
    .opens ⟨1, 2, if b = 0xE0 then 0xA0 else 0x80, if b = 0xED then 0x9F else 0xBF, b - 0xE0⟩
  else if b < 0xF5 then
    .opens ⟨1, 3, if b = 0xF0 then 0x90 else 0x80, if b = 0xF4 then 0x8F else 0xBF, b - 0xF0⟩
  else .refused

/-- What a continuation byte makes of a pending scalar value. -/
inductive Advance where
  | done (c : Char)
  | more (p : Pending)
  | refused
  deriving DecidableEq, Repr

/-- Reads a continuation byte. -/
def Pending.advance (p : Pending) (byte : UInt8) : Advance :=
  let b := byte.toNat
  if p.low ≤ b ∧ b ≤ p.high then
    let bits := p.bits * 64 + (b - 0x80)
    if p.owed ≤ 1 then .done (Char.ofNat bits)
    else .more ⟨p.seen + 1, p.owed - 1, 0x80, 0xBF, bits⟩
  else .refused

/-- Decodes from a position `i` on, with the scalar value that is under way there. -/
def decodeFrom (i : Nat) : Option Pending → List UInt8 → Except Fault (List Char)
  | none, [] => .ok []
  | some p, [] => .error ⟨i - p.seen, none⟩
  | none, b :: rest =>
    match lead b with
    | .whole c => (c :: ·) <$> decodeFrom (i + 1) none rest
    | .opens p => decodeFrom (i + 1) (some p) rest
    | .refused => .error ⟨i, some 1⟩
  | some p, b :: rest =>
    match p.advance b with
    | .done c => (c :: ·) <$> decodeFrom (i + 1) none rest
    | .more p => decodeFrom (i + 1) (some p) rest
    | .refused => .error ⟨i - p.seen, some p.seen⟩

/-- The text that bytes stand for, or the first fault in them. -/
def decode (bytes : List UInt8) : Except Fault String :=
  String.ofList <$> decodeFrom 0 none bytes

/-- Stands for a part that is not text. -/
def replacement : Char := '\uFFFD'

/-- Decodes with one replacement character for each faulty part; the byte that broke a scalar value
off starts the next one. -/
def decodeLossyFrom : Option Pending → List UInt8 → List Char
  | none, [] => []
  | some _, [] => [replacement]
  | none, b :: rest =>
    match lead b with
    | .whole c => c :: decodeLossyFrom none rest
    | .opens p => decodeLossyFrom (some p) rest
    | .refused => replacement :: decodeLossyFrom none rest
  | some p, b :: rest =>
    match p.advance b with
    | .done c => c :: decodeLossyFrom none rest
    | .more p => decodeLossyFrom (some p) rest
    | .refused =>
      match lead b with
      | .whole c => replacement :: c :: decodeLossyFrom none rest
      | .opens p => replacement :: decodeLossyFrom (some p) rest
      | .refused => replacement :: replacement :: decodeLossyFrom none rest

/-- The text of bytes that need not be well formed. -/
def decodeLossy (bytes : List UInt8) : String :=
  String.ofList (decodeLossyFrom none bytes)

/-- The bytes of a text. -/
def encode (s : String) : List UInt8 :=
  s.toList.flatMap String.utf8EncodeChar

end Utf8

end PluginKit
