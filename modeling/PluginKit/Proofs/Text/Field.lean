import Mathlib.Data.List.TakeWhile
import PluginKit.Proofs.Text.Utf8
import PluginKit.Text.Bytes

/-!
# `PluginKit.Proofs.Text.Field`: texts in fields of a fixed length

A text with no zero byte in it that leaves room for one behind it stands whole in its field, ends at
a zero byte, and is read back.

* `content_ofBytes`, `decode_ofBytes_encode`: what a field gives back.
* `encode_of_decode`: a text that is read from a field has the bytes of the field.
* `cleared`: the field with nothing behind its text.
* `zero_mem_ofBytes`: the zero byte that ends the text lies in the field.
-/

set_option autoImplicit false

namespace PluginKit

namespace Terminated

/-- A text ends at the first zero byte, so it has none. -/
theorem zero_notMem (raw : List UInt8) : 0 ∉ bytes raw := fun h => by
  simpa using List.mem_takeWhile_imp h

/-- A zero byte is past the end of its text. -/
theorem length_bytes_lt {raw : List UInt8} (h : 0 ∈ raw) : (bytes raw).length < raw.length := by
  apply Nat.lt_of_le_of_ne (List.takeWhile_sublist _).length_le
  intro heq
  have hwhole : bytes raw = raw := (List.takeWhile_sublist _).eq_of_length heq
  exact zero_notMem raw (hwhole.symm ▸ h)

/-- Zero bytes behind a text are not part of it. -/
theorem bytes_append_zeros {raw : List UInt8} (h : 0 ∉ raw) (n : Nat) :
    bytes (raw ++ List.replicate n 0) = raw := by
  unfold bytes
  induction raw with
  | nil => cases n <;> simp [List.replicate_succ]
  | cons b rest ih =>
      have hb : b ≠ 0 := fun hb => h (hb ▸ List.mem_cons_self)
      rw [List.cons_append, List.takeWhile_cons_of_pos (by simpa using hb),
        ih fun hrest => h (List.mem_cons_of_mem b hrest)]

end Terminated

namespace TextField

variable {n : Nat}

/-- What a field holds of a text that fits: the text, and zero bytes up to the length of the
field. -/
theorem bytes_ofBytes {raw : List UInt8} (h : raw.length ≤ n) :
    (ofBytes n raw).bytes = raw ++ List.replicate (n - raw.length) 0 := by
  show raw.take n ++ _ = _
  rw [List.take_of_length_le h]

/-- A text that fits comes back byte for byte. With a zero byte in it only what is before that byte
would. -/
theorem content_ofBytes {raw : List UInt8} (h : raw.length ≤ n) (hzero : 0 ∉ raw) :
    (ofBytes n raw).content = raw := by
  unfold content
  rw [bytes_ofBytes h]
  exact Terminated.bytes_append_zeros hzero _

/-- A text that fits is read back from its field. A longer one might be cut inside of a
character. -/
theorem decode_ofBytes_encode {s : String} (h : (Utf8.encode s).length ≤ n)
    (hzero : 0 ∉ Utf8.encode s) : (ofBytes n (Utf8.encode s)).decode = .ok s := by
  unfold decode
  rw [content_ofBytes h hzero]
  exact Utf8.decode_encode s

/-- A text that leaves room ends at a zero byte inside its field, which is what the daemon's own
code relies on when it reads the field. -/
theorem zero_mem_ofBytes {raw : List UInt8} (h : raw.length < n) : 0 ∈ (ofBytes n raw).bytes := by
  rw [bytes_ofBytes (Nat.le_of_lt h)]
  exact List.mem_append_right _ (List.mem_replicate.mpr ⟨by omega, rfl⟩)

/-! ### From field to text -/

theorem length_content_le (f : TextField n) : f.content.length ≤ n := by
  have hle : f.content.length ≤ f.bytes.length := (List.takeWhile_sublist _).length_le
  rwa [f.length_eq] at hle

/-- The text of a field that has a zero byte leaves room for it. -/
theorem length_content_lt {f : TextField n} (h : 0 ∈ f.bytes) : f.content.length < n := by
  have hlt : f.content.length < f.bytes.length := Terminated.length_bytes_lt h
  rwa [f.length_eq] at hlt

/-- A text that is read from a field has the bytes of the field, up to the zero byte that ends
it. -/
theorem encode_of_decode {f : TextField n} {s : String} (h : f.decode = .ok s) :
    Utf8.encode s = f.content := Utf8.encode_of_decode h

/-- The field with nothing but zero bytes behind its text. What was there before is not part of the
text, but it is passed on if a field is copied, and lost if its text is read and written. -/
def cleared (f : TextField n) : TextField n := ofBytes n f.content

theorem bytes_cleared (f : TextField n) :
    f.cleared.bytes = f.content ++ List.replicate (n - f.content.length) 0 :=
  bytes_ofBytes f.length_content_le

theorem content_cleared (f : TextField n) : f.cleared.content = f.content :=
  content_ofBytes f.length_content_le (Terminated.zero_notMem _)

/-- Clearing a field leaves its text as it is, readable or not. -/
theorem decode_cleared (f : TextField n) : f.cleared.decode = f.decode := by
  unfold decode
  rw [content_cleared]

theorem cleared_cleared (f : TextField n) : f.cleared.cleared = f.cleared := by
  unfold cleared
  rw [show (ofBytes n f.content).content = f.content from f.content_cleared]

/-- Clearing a field keeps it terminated. -/
theorem zero_mem_cleared {f : TextField n} (h : 0 ∈ f.bytes) : 0 ∈ f.cleared.bytes :=
  zero_mem_ofBytes (length_content_lt h)

end TextField

end PluginKit
