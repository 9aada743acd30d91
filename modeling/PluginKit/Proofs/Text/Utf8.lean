import PluginKit.Proofs.Steps
import PluginKit.Text.Utf8

/-!
# `PluginKit.Proofs.Text.Utf8`: what is encoded is read back

The decoder is a machine that reads one byte at a time, the encoder writes one character at a time.
`Reads c bytes` says that the machine, between two characters, takes exactly these bytes for the
character `c`. The bytes that the encoder writes for a character are such bytes, and both decoders
follow the machine.

* `reads_encodeChar`: the encoder's bytes of a character are read as that character.
* `decode_encode`, `decodeLossy_encode`: the round trips.
* `encode_of_decode`, `decode_eq_ok_iff`: the way back, since no text has two encodings.
* `IsText`: the bytes that are read as some text.
* `zero_mem_encode`: the zero byte encodes the zero character and nothing else.
* `zero_notMem_decodeLossy`: without a zero byte there is no zero character, whatever is replaced.
-/

set_option autoImplicit false

namespace PluginKit

namespace Utf8

/-! ### The machine on one character -/

/-- The bytes complete a scalar value that is under way to a character. What is under way carries
the range of its next byte, so nothing has to be said about the bytes here. -/
inductive Completes (c : Char) : Pending → List UInt8 → Prop
  | done {p : Pending} {b : UInt8} : p.advance b = .done c → Completes c p [b]
  | more {p q : Pending} {b : UInt8} {rest : List UInt8} :
      p.advance b = .more q → Completes c q rest → Completes c p (b :: rest)

/-- The bytes are one character, from its first byte to its last. Both decoders are this machine,
with different answers to bytes that do not fit. -/
inductive Reads (c : Char) : List UInt8 → Prop
  | whole {b : UInt8} : lead b = .whole c → Reads c [b]
  | opens {b : UInt8} {p : Pending} {rest : List UInt8} :
      lead b = .opens p → Completes c p rest → Reads c (b :: rest)

/-- A scalar value under way takes the bytes that complete it, and the decoder is between two
characters again. -/
theorem decodeFrom_of_completes {c : Char} {p : Pending} {bytes : List UInt8}
    (h : Completes c p bytes) (i : Nat) (rest : List UInt8) :
    decodeFrom i (some p) (bytes ++ rest)
      = (c :: ·) <$> decodeFrom (i + bytes.length) none rest := by
  induction h generalizing i with
  | done hb => simp only [List.singleton_append, decodeFrom, hb, List.length_singleton]
  | more hb _ ih =>
      simp only [List.cons_append, decodeFrom, hb, List.length_cons]
      rw [ih (i + 1), Nat.add_right_comm, Nat.add_assoc]

/-- The strict decoder takes a character's bytes as that character and goes on behind them, at the
position that it would name in a fault. -/
theorem decodeFrom_of_reads {c : Char} {bytes : List UInt8} (h : Reads c bytes) (i : Nat)
    (rest : List UInt8) :
    decodeFrom i none (bytes ++ rest)
      = (c :: ·) <$> decodeFrom (i + bytes.length) none rest := by
  cases h with
  | whole hb => simp only [List.singleton_append, decodeFrom, hb, List.length_singleton]
  | opens hb htail =>
      simp only [List.cons_append, decodeFrom, hb, List.length_cons]
      rw [decodeFrom_of_completes htail, Nat.add_right_comm, Nat.add_assoc]

/-- The forgiving decoder has nothing to forgive in bytes that complete a character. -/
theorem decodeLossyFrom_of_completes {c : Char} {p : Pending} {bytes : List UInt8}
    (h : Completes c p bytes) (rest : List UInt8) :
    decodeLossyFrom (some p) (bytes ++ rest) = c :: decodeLossyFrom none rest := by
  induction h with
  | done hb => simp only [List.singleton_append, decodeLossyFrom, hb]
  | more hb _ ih => simp only [List.cons_append, decodeLossyFrom, hb, ih]

/-- So does the forgiving decoder. -/
theorem decodeLossyFrom_of_reads {c : Char} {bytes : List UInt8} (h : Reads c bytes)
    (rest : List UInt8) :
    decodeLossyFrom none (bytes ++ rest) = c :: decodeLossyFrom none rest := by
  cases h with
  | whole hb => simp only [List.singleton_append, decodeLossyFrom, hb]
  | opens hb htail =>
      simp only [List.cons_append, decodeLossyFrom, hb]
      exact decodeLossyFrom_of_completes htail rest

/-! ### First and continuation bytes -/

theorem lead_ascii {n : Nat} (h : n < 0x80) : lead (UInt8.ofNat n) = .whole (Char.ofNat n) := by
  have hbyte : (UInt8.ofNat n).toNat = n := by simp; omega
  simp only [lead, hbyte, if_pos h]

/-- The first byte of two: the lowest two are left out, as their characters have a shorter form. -/
theorem lead_two {n : Nat} (hlow : 2 ≤ n) (hhigh : n < 0x20) :
    lead (UInt8.ofNat (n + 0xC0)) = .opens ⟨1, 1, 0x80, 0xBF, n⟩ := by
  have hbyte : (UInt8.ofNat (n + 0xC0)).toNat = n + 0xC0 := by simp; omega
  simp only [lead, hbyte]
  rw [if_neg (by omega), if_neg (by omega), if_pos (by omega), Nat.add_sub_cancel]

/-- The first byte of three. After the first of these, and after the one that leads to surrogates,
the next byte has a narrower range. -/
theorem lead_three {n : Nat} (h : n < 0x10) :
    lead (UInt8.ofNat (n + 0xE0))
      = .opens ⟨1, 2, if n = 0 then 0xA0 else 0x80, if n = 0xD then 0x9F else 0xBF, n⟩ := by
  have hbyte : (UInt8.ofNat (n + 0xE0)).toNat = n + 0xE0 := by simp; omega
  have hzero : n + 0xE0 = 0xE0 ↔ n = 0 := by omega
  have hsurrogate : n + 0xE0 = 0xED ↔ n = 0xD := by omega
  simp only [lead, hbyte, hzero, hsurrogate]
  rw [if_neg (by omega), if_neg (by omega), if_neg (by omega), if_pos (by omega),
    Nat.add_sub_cancel]

/-- The first byte of four. The last one leads past the largest character, so its next byte has a
narrower range, too. -/
theorem lead_four {n : Nat} (h : n < 5) :
    lead (UInt8.ofNat (n + 0xF0))
      = .opens ⟨1, 3, if n = 0 then 0x90 else 0x80, if n = 4 then 0x8F else 0xBF, n⟩ := by
  have hbyte : (UInt8.ofNat (n + 0xF0)).toNat = n + 0xF0 := by simp; omega
  have hzero : n + 0xF0 = 0xF0 ↔ n = 0 := by omega
  have hlast : n + 0xF0 = 0xF4 ↔ n = 4 := by omega
  simp only [lead, hbyte, hzero, hlast]
  rw [if_neg (by omega), if_neg (by omega), if_neg (by omega), if_neg (by omega),
    if_pos (by omega), Nat.add_sub_cancel]

/-- A continuation byte in range adds six bits, and ends the character if no further one is owed. -/
theorem advance_tail {p : Pending} {n : Nat} (hlow : p.low ≤ n + 0x80)
    (hhigh : n + 0x80 ≤ p.high) (h : n < 0x40) :
    p.advance (UInt8.ofNat (n + 0x80))
      = if p.owed ≤ 1 then .done (Char.ofNat (p.bits * 64 + n))
        else .more ⟨p.seen + 1, p.owed - 1, 0x80, 0xBF, p.bits * 64 + n⟩ := by
  have hbyte : (UInt8.ofNat (n + 0x80)).toNat = n + 0x80 := by simp; omega
  simp only [Pending.advance, hbyte]
  rw [if_pos ⟨hlow, hhigh⟩, Nat.add_sub_cancel]

/-- What the encoder writes for a character is read as that character. The narrowed ranges after
some first bytes never bite: a short value has a shorter form, and a character is no surrogate. -/
theorem reads_encodeChar (c : Char) : Reads c (String.utf8EncodeChar c) := by
  have hvalid : c.val.toNat < 0xD800 ∨ (0xDFFF < c.val.toNat ∧ c.val.toNat < 0x110000) := c.valid
  have hchar : Char.ofNat c.val.toNat = c := Char.ofNat_toNat c
  unfold String.utf8EncodeChar
  generalize c.val.toNat = v at hvalid hchar
  dsimp only
  split
  · -- one byte, below 0x80
    exact .whole (by rw [lead_ascii (by omega), hchar])
  split
  · -- two bytes, below 0x800
    refine .opens (lead_two (by omega) (by omega)) (.done ?_)
    rw [advance_tail (by dsimp only; omega) (by dsimp only; omega) (by omega),
      if_pos (Nat.le_refl 1)]
    have hbits : v / 64 % 32 * 64 + v % 64 = v := by omega
    simp only [hbits, hchar]
  split
  · -- three bytes, below 0x10000; after the second the value is `v / 64`
    refine .opens (lead_three (by omega))
      (.more (q := ⟨2, 1, 0x80, 0xBF, v / 64⟩) ?_ (.done ?_))
    · have hbits : v / 4096 % 16 * 64 + v / 64 % 64 = v / 64 := by omega
      rw [advance_tail (by dsimp only; split <;> omega) (by dsimp only; split <;> omega)
        (by omega)]
      simp only [hbits, if_neg (by decide : ¬2 ≤ 1)]
    · have hbits : v / 64 * 64 + v % 64 = v := by omega
      rw [advance_tail (by dsimp only; omega) (by dsimp only; omega) (by omega)]
      simp only [hbits, hchar, if_pos (Nat.le_refl 1)]
  · -- four bytes; the value grows over `v / 4096` and `v / 64`
    have hlead : v / 262144 % 8 = v / 262144 := by omega
    rw [hlead]
    refine .opens (lead_four (by omega)) (.more (q := ⟨2, 2, 0x80, 0xBF, v / 4096⟩) ?_
      (.more (q := ⟨3, 1, 0x80, 0xBF, v / 64⟩) ?_ (.done ?_)))
    · have hbits : v / 262144 * 64 + v / 4096 % 64 = v / 4096 := by omega
      rw [advance_tail (by dsimp only; split <;> omega) (by dsimp only; split <;> omega)
        (by omega)]
      simp only [hbits, if_neg (by decide : ¬3 ≤ 1)]
    · have hbits : v / 4096 * 64 + v / 64 % 64 = v / 64 := by omega
      rw [advance_tail (by dsimp only; omega) (by dsimp only; omega) (by omega)]
      simp only [hbits, if_neg (by decide : ¬2 ≤ 1)]
    · have hbits : v / 64 * 64 + v % 64 = v := by omega
      rw [advance_tail (by dsimp only; omega) (by dsimp only; omega) (by omega)]
      simp only [hbits, hchar, if_pos (Nat.le_refl 1)]

/-! ### The round trips -/

/-- Characters that are encoded one after the other are decoded one after the other, from any
position. -/
theorem decodeFrom_flatMap (cs : List Char) (i : Nat) :
    decodeFrom i none (cs.flatMap String.utf8EncodeChar) = .ok cs := by
  induction cs generalizing i with
  | nil => rfl
  | cons c cs ih =>
      rw [List.flatMap_cons, decodeFrom_of_reads (reads_encodeChar c), ih]
      rfl

/-- A text that is encoded is read back. So texts lose nothing in a field that has room for them. -/
theorem decode_encode (s : String) : decode (encode s) = .ok s := by
  unfold decode encode
  rw [decodeFrom_flatMap]
  exact congrArg Except.ok String.ofList_toList

theorem decodeLossyFrom_flatMap (cs : List Char) :
    decodeLossyFrom none (cs.flatMap String.utf8EncodeChar) = cs := by
  induction cs with
  | nil => rfl
  | cons c cs ih => rw [List.flatMap_cons, decodeLossyFrom_of_reads (reads_encodeChar c), ih]

/-- Nothing of a text that is encoded has to be replaced, so it makes no difference which decoder
reads what this library has written. -/
theorem decodeLossy_encode (s : String) : decodeLossy (encode s) = s := by
  unfold decodeLossy encode
  rw [decodeLossyFrom_flatMap]
  exact String.ofList_toList

/-- Different texts have different bytes. -/
theorem encode_injective {s t : String} (h : encode s = encode t) : s = t := by
  have hdecode := decode_encode s
  rw [h, decode_encode t] at hdecode
  exact (Except.ok.inj hdecode).symm

/-! ### What is read was encoded -/

section
variable {c : Char} {seen owed low high bits : Nat} {bytes : List UInt8}

/-- The last byte that is owed ends the character. Together with `Completes.next` this takes the
bytes of a character apart one at a time. -/
theorem Completes.last (h : Completes c ⟨seen, 1, low, high, bits⟩ bytes) :
    ∃ b, bytes = [b] ∧ low ≤ b.toNat ∧ b.toNat ≤ high ∧
      c = Char.ofNat (bits * 64 + (b.toNat - 0x80)) := by
  cases h with
  | @done _ b hb =>
      simp only [Pending.advance] at hb
      split at hb
      · rename_i hrange
        exact ⟨b, rfl, hrange.1, hrange.2, (Advance.done.inj hb).symm⟩
      · cases hb
  | @more _ q b rest hb hrest =>
      -- nothing more is owed after this byte
      simp only [Pending.advance] at hb
      split at hb <;> cases hb

/-- A byte before the last one adds six bits, and the byte behind it may be any continuation. -/
theorem Completes.next (h : Completes c ⟨seen, owed + 2, low, high, bits⟩ bytes) :
    ∃ b rest, bytes = b :: rest ∧ low ≤ b.toNat ∧ b.toNat ≤ high ∧
      Completes c ⟨seen + 1, owed + 1, 0x80, 0xBF, bits * 64 + (b.toNat - 0x80)⟩ rest := by
  have howed : ¬owed + 2 ≤ 1 := by omega
  cases h with
  | @done _ b hb =>
      simp only [Pending.advance, if_neg howed] at hb
      split at hb <;> cases hb
  | @more _ q b rest hb hrest =>
      simp only [Pending.advance, if_neg howed] at hb
      split at hb
      · rename_i hrange
        refine ⟨b, rest, rfl, hrange.1, hrange.2, ?_⟩
        rw [← Advance.more.inj hb] at hrest
        exact hrest
      · cases hb

end

/-- The number of a character that has one: not a surrogate, and not past the largest. -/
theorem val_ofNat {v : Nat} (h : v < 0xD800 ∨ 0xDFFF < v ∧ v < 0x110000) :
    (Char.ofNat v).val.toNat = v := by
  have hvalid : v.isValidChar := h
  unfold Char.ofNat
  rw [dif_pos hvalid]
  rfl

theorem ofNat_of_eq (b : UInt8) {n : Nat} (h : n = b.toNat) : UInt8.ofNat n = b := by
  rw [h]
  exact UInt8.ofNat_toNat

section
variable {n k l m : Nat}

/-- The encoder on characters of one byte. This and the next three are the encoder's cases with the
number given by its groups of six bits, as the decoder has collected them. -/
theorem encodeChar_one (h : n < 0x80) :
    String.utf8EncodeChar (Char.ofNat n) = [UInt8.ofNat n] := by
  have hval : (Char.ofNat n).val.toNat = n := val_ofNat (by omega)
  unfold String.utf8EncodeChar
  dsimp only
  rw [hval, if_pos (by omega)]

theorem encodeChar_two (hlow : 2 ≤ n) (hhigh : n < 0x20) (hk : k < 0x40) :
    String.utf8EncodeChar (Char.ofNat (n * 64 + k))
      = [UInt8.ofNat (n + 0xC0), UInt8.ofNat (k + 0x80)] := by
  have hval : (Char.ofNat (n * 64 + k)).val.toNat = n * 64 + k := val_ofNat (by omega)
  have hn : (n * 64 + k) / 64 % 32 = n := by omega
  have hrest : (n * 64 + k) % 64 = k := by omega
  unfold String.utf8EncodeChar
  dsimp only
  rw [hval, if_neg (by omega), if_pos (by omega), hn, hrest]

/-- The encoder on characters of three bytes: the number is not so small that two would do, and no
surrogate. -/
theorem encodeChar_three (hn : n < 0x10) (hlow : n = 0 → 0x20 ≤ k) (hhigh : n = 0xD → k < 0x20)
    (hk : k < 0x40) (hl : l < 0x40) :
    String.utf8EncodeChar (Char.ofNat ((n * 64 + k) * 64 + l))
      = [UInt8.ofNat (n + 0xE0), UInt8.ofNat (k + 0x80), UInt8.ofNat (l + 0x80)] := by
  have hval : (Char.ofNat ((n * 64 + k) * 64 + l)).val.toNat = (n * 64 + k) * 64 + l :=
    val_ofNat (by omega)
  have hfirst : ((n * 64 + k) * 64 + l) / 4096 % 16 = n := by omega
  have hsecond : ((n * 64 + k) * 64 + l) / 64 % 64 = k := by omega
  have hthird : ((n * 64 + k) * 64 + l) % 64 = l := by omega
  unfold String.utf8EncodeChar
  dsimp only
  rw [hval, if_neg (by omega), if_neg (by omega), if_pos (by omega), hfirst, hsecond, hthird]

/-- The encoder on characters of four bytes: the number is not so small that three would do, and not
past the largest. -/
theorem encodeChar_four (hn : n < 5) (hlow : n = 0 → 0x10 ≤ k) (hhigh : n = 4 → k < 0x10)
    (hk : k < 0x40) (hl : l < 0x40) (hm : m < 0x40) :
    String.utf8EncodeChar (Char.ofNat (((n * 64 + k) * 64 + l) * 64 + m))
      = [UInt8.ofNat (n + 0xF0), UInt8.ofNat (k + 0x80), UInt8.ofNat (l + 0x80),
        UInt8.ofNat (m + 0x80)] := by
  have hval : (Char.ofNat (((n * 64 + k) * 64 + l) * 64 + m)).val.toNat
      = ((n * 64 + k) * 64 + l) * 64 + m := val_ofNat (by omega)
  have hfirst : (((n * 64 + k) * 64 + l) * 64 + m) / 262144 % 8 = n := by omega
  have hsecond : (((n * 64 + k) * 64 + l) * 64 + m) / 4096 % 64 = k := by omega
  have hthird : (((n * 64 + k) * 64 + l) * 64 + m) / 64 % 64 = l := by omega
  have hfourth : (((n * 64 + k) * 64 + l) * 64 + m) % 64 = m := by omega
  unfold String.utf8EncodeChar
  dsimp only
  rw [hval, if_neg (by omega), if_neg (by omega), if_neg (by omega), hfirst, hsecond, hthird,
    hfourth]

end

/-- Every character that is read was written by the encoder: the narrowed ranges leave out what
has a shorter form or is no character. -/
theorem encodeChar_of_reads {c : Char} {bytes : List UInt8} (h : Reads c bytes) :
    String.utf8EncodeChar c = bytes := by
  cases h with
  | @whole b hb =>
      simp only [lead] at hb
      split at hb
      · rw [← Lead.whole.inj hb, encodeChar_one (by assumption), ofNat_of_eq b rfl]
      · -- no other first byte stands alone
        repeat' split at hb
        all_goals cases hb
  | @opens b p rest hb hrest =>
      simp only [lead] at hb
      split at hb
      · cases hb
      split at hb
      · cases hb
      split at hb
      · -- two bytes
        cases hb
        obtain ⟨b₂, rfl, hlow₂, hhigh₂, hc⟩ := hrest.last
        rw [hc, encodeChar_two (by omega) (by omega) (by omega), ofNat_of_eq b (by omega),
          ofNat_of_eq b₂ (by omega)]
      split at hb
      · -- three bytes
        cases hb
        obtain ⟨b₂, rest, rfl, hlow₂, hhigh₂, hrest⟩ := hrest.next
        obtain ⟨b₃, rfl, hlow₃, hhigh₃, hc⟩ := hrest.last
        have hmin : 0x80 ≤ b₂.toNat ∧ b₂.toNat ≤ 0xBF := by
          split at hlow₂ <;> split at hhigh₂ <;> omega
        rw [hc, encodeChar_three (by omega) (by split at hlow₂ <;> omega)
          (by split at hhigh₂ <;> omega) (by omega) (by omega), ofNat_of_eq b (by omega),
          ofNat_of_eq b₂ (by omega), ofNat_of_eq b₃ (by omega)]
      split at hb
      · -- four bytes
        cases hb
        obtain ⟨b₂, rest, rfl, hlow₂, hhigh₂, hrest⟩ := hrest.next
        obtain ⟨b₃, rest, rfl, hlow₃, hhigh₃, hrest⟩ := hrest.next
        obtain ⟨b₄, rfl, hlow₄, hhigh₄, hc⟩ := hrest.last
        have hmin : 0x80 ≤ b₂.toNat ∧ b₂.toNat ≤ 0xBF := by
          split at hlow₂ <;> split at hhigh₂ <;> omega
        rw [hc, encodeChar_four (by omega) (by split at hlow₂ <;> omega)
          (by split at hhigh₂ <;> omega) (by omega) (by omega) (by omega),
          ofNat_of_eq b (by omega), ofNat_of_eq b₂ (by omega), ofNat_of_eq b₃ (by omega),
          ofNat_of_eq b₄ (by omega)]
      · cases hb

/-- A character that is under way is completed by the first bytes, and the rest is read behind it. -/
theorem completes_of_decodeFrom {p : Pending} {bytes : List UInt8} {cs : List Char} {i : Nat}
    (h : decodeFrom i (some p) bytes = .ok cs) :
    ∃ c tail more rest j, cs = c :: tail ∧ bytes = more ++ rest ∧ Completes c p more ∧
      decodeFrom j none rest = .ok tail := by
  -- On the bytes, with the character under way as a parameter: each byte completes or extends it.
  induction bytes generalizing i p with
  | nil => cases h
  | cons b bytes ih =>
      simp only [decodeFrom] at h
      cases hb : p.advance b with
      | done c =>
          rw [hb] at h
          obtain ⟨tail, htail, hcs⟩ := map_eq_ok h
          exact ⟨c, tail, [b], bytes, _, hcs.symm, rfl, .done hb, htail⟩
      | more q =>
          rw [hb] at h
          obtain ⟨c, tail, more, rest, j, rfl, rfl, hmore, hrest⟩ := ih h
          exact ⟨c, tail, b :: more, rest, j, rfl, rfl, .more hb hmore, hrest⟩
      | refused =>
          rw [hb] at h
          cases h

/-- A text that is read starts with a character that its first bytes are, so that reading can be
followed character by character. -/
theorem reads_of_decodeFrom {b : UInt8} {bytes : List UInt8} {cs : List Char} {i : Nat}
    (h : decodeFrom i none (b :: bytes) = .ok cs) :
    ∃ c tail more rest j, cs = c :: tail ∧ b :: bytes = b :: more ++ rest ∧ Reads c (b :: more) ∧
      decodeFrom j none rest = .ok tail := by
  simp only [decodeFrom] at h
  cases hb : lead b with
  | whole c =>
      rw [hb] at h
      obtain ⟨tail, htail, hcs⟩ := map_eq_ok h
      exact ⟨c, tail, [], bytes, _, hcs.symm, rfl, .whole hb, htail⟩
  | opens p =>
      rw [hb] at h
      obtain ⟨c, tail, more, rest, j, rfl, rfl, hmore, hrest⟩ := completes_of_decodeFrom h
      exact ⟨c, tail, more, rest, j, rfl, rfl, .opens hb hmore, hrest⟩
  | refused =>
      rw [hb] at h
      cases h

/-- What is decoded encodes to the bytes it was decoded from, by induction on the characters: each
of them takes the first bytes and leaves the rest. -/
theorem flatMap_of_decodeFrom {bytes : List UInt8} {cs : List Char} {i : Nat}
    (h : decodeFrom i none bytes = .ok cs) : cs.flatMap String.utf8EncodeChar = bytes := by
  induction cs generalizing i bytes with
  | nil =>
      cases bytes with
      | nil => rfl
      | cons b bytes =>
          obtain ⟨c, tail, more, rest, j, hcs, -⟩ := reads_of_decodeFrom h
          cases hcs
  | cons first cs ih =>
      cases bytes with
      | nil => cases h
      | cons b bytes =>
          obtain ⟨c, tail, more, rest, j, hcs, hbytes, hreads, hrest⟩ := reads_of_decodeFrom h
          obtain ⟨rfl, rfl⟩ := List.cons.inj hcs
          rw [List.flatMap_cons, encodeChar_of_reads hreads, ih hrest, hbytes]

/-- A text that is read has the bytes that it was read from: no text has two encodings. Forms longer
than needed and encoded surrogates are faults. -/
theorem encode_of_decode {bytes : List UInt8} {s : String} (h : decode bytes = .ok s) :
    encode s = bytes := by
  unfold decode at h
  obtain ⟨cs, hcs, rfl⟩ := map_eq_ok h
  unfold encode
  rw [String.toList_ofList]
  exact flatMap_of_decodeFrom hcs

/-- Bytes that some text is written in. These are the texts that the daemon can hand over without an
error, as `decode_eq_ok_iff` says. -/
def IsText (bytes : List UInt8) : Prop := ∃ s, encode s = bytes

/-- The strict decoder succeeds on encodings only, and inverts the encoder there. -/
theorem decode_eq_ok_iff {bytes : List UInt8} {s : String} :
    decode bytes = .ok s ↔ encode s = bytes :=
  ⟨encode_of_decode, fun h => h ▸ decode_encode s⟩

/-! ### The zero byte -/

/-- The zero byte is part of one encoding only, since the bytes of longer ones are 0x80 or more. -/
theorem zero_mem_encodeChar (c : Char) : 0 ∈ String.utf8EncodeChar c ↔ c = '\x00' := by
  have hbyte (n : Nat) (hlow : 0 < n) (hhigh : n < 256) : (0 : UInt8) ≠ UInt8.ofNat n := by
    intro h
    have htoNat := congrArg UInt8.toNat h
    simp at htoNat
    omega
  constructor
  · intro h
    unfold String.utf8EncodeChar at h
    dsimp only at h
    have hzero : c.val.toNat = 0 := by
      -- Every byte but the first of a one-byte form has its upper bit set.
      split at h
      · by_cases hpos : 0 < c.val.toNat
        · exact absurd (List.mem_singleton.mp h) (hbyte _ hpos (by omega))
        · omega
      · exfalso
        split at h
        · simp only [List.mem_cons, List.not_mem_nil, or_false] at h
          rcases h with h | h <;> exact hbyte _ (by omega) (by omega) h
        · split at h <;> simp only [List.mem_cons, List.not_mem_nil, or_false] at h
          · rcases h with h | h | h <;> exact hbyte _ (by omega) (by omega) h
          · rcases h with h | h | h | h <;> exact hbyte _ (by omega) (by omega) h
    rw [← Char.ofNat_toNat c]
    show Char.ofNat c.val.toNat = _
    rw [hzero]
  · rintro rfl
    decide

/-- The zero byte encodes the zero character and is part of no other. So a text can be checked for
the character instead of its bytes. -/
theorem zero_mem_encode (s : String) : 0 ∈ encode s ↔ '\x00' ∈ s.toList := by
  unfold encode
  rw [List.mem_flatMap]
  constructor
  · rintro ⟨c, hc, hzero⟩
    rwa [(zero_mem_encodeChar c).mp hzero] at hc
  · intro hc
    exact ⟨_, hc, (zero_mem_encodeChar _).mpr rfl⟩

/-! ### What the forgiving decoder cannot bring in -/

/-- Whatever ends a scalar value that is under way, it is not the zero character. This is the
invariant of the forgiving decoder for the question what it can bring in. -/
def Pending.Nonzero (p : Pending) : Prop := ∀ c more, Completes c p more → c ≠ '\x00'

/-- The zero character has one byte, so none that takes more is the zero character. -/
theorem nonzero_of_lead {b : UInt8} {p : Pending} (h : lead b = .opens p) : p.Nonzero := by
  rintro c more hmore rfl
  have hencode : [0] = b :: more := encodeChar_of_reads (.opens h hmore)
  obtain ⟨-, rfl⟩ := List.cons.inj hencode
  cases hmore

theorem ne_zero_of_lead {b : UInt8} {c : Char} (hb : b ≠ 0) (h : lead b = .whole c) :
    c ≠ '\x00' := by
  rintro rfl
  have hencode : [0] = [b] := encodeChar_of_reads (.whole h)
  exact hb (List.cons.inj hencode).1.symm

/-- A byte that breaks off what is under way starts the next scalar value. It is read again, so
nothing but what was under way is replaced. -/
theorem decodeLossyFrom_of_refused {p : Pending} {b : UInt8} (h : p.advance b = .refused)
    (rest : List UInt8) :
    decodeLossyFrom (some p) (b :: rest) = replacement :: decodeLossyFrom none (b :: rest) := by
  simp only [decodeLossyFrom, h]
  cases lead b <;> rfl

/-- No zero character comes out without a zero byte, from any state that is not on its way to
one. -/
theorem zero_notMem_decodeLossyFrom {bytes : List UInt8} (hbytes : 0 ∉ bytes)
    {p : Option Pending} (hp : ∀ q ∈ p, q.Nonzero) : '\x00' ∉ decodeLossyFrom p bytes := by
  have hreplacement : '\x00' ≠ replacement := by decide
  induction bytes generalizing p with
  | nil =>
      cases p with
      | none => exact List.not_mem_nil
      | some q => exact fun h => hreplacement (List.mem_singleton.mp h)
  | cons b rest ih =>
      obtain ⟨hb, hrest⟩ := not_or.mp (mt List.mem_cons.mpr hbytes)
      have hbetween : '\x00' ∉ decodeLossyFrom none rest := ih hrest nofun
      -- between two characters, the byte is one or starts one
      have hfirst : '\x00' ∉ decodeLossyFrom none (b :: rest) := by
        simp only [decodeLossyFrom]
        cases hlead : lead b with
        | whole c =>
            exact List.not_mem_cons_of_ne_of_not_mem (ne_zero_of_lead (Ne.symm hb) hlead).symm
              hbetween
        | opens q =>
            refine ih hrest fun q' hq' => ?_
            rw [← Option.mem_some.mp hq']
            exact nonzero_of_lead hlead
        | refused => exact List.not_mem_cons_of_ne_of_not_mem hreplacement hbetween
      cases p with
      | none => exact hfirst
      | some q =>
          have hq := hp q rfl
          cases hadvance : q.advance b with
          | done c =>
              simp only [decodeLossyFrom, hadvance]
              exact List.not_mem_cons_of_ne_of_not_mem (hq c [b] (.done hadvance)).symm hbetween
          | more q' =>
              simp only [decodeLossyFrom, hadvance]
              refine ih hrest fun r hr => ?_
              rw [← Option.mem_some.mp hr]
              exact fun c more hmore => hq c (b :: more) (.more hadvance hmore)
          | refused =>
              rw [decodeLossyFrom_of_refused hadvance]
              exact List.not_mem_cons_of_ne_of_not_mem hreplacement hfirst

/-- Bytes without a zero byte are read without a zero character, whatever has to be replaced. Texts
that come from the daemon end before its first zero byte. -/
theorem zero_notMem_decodeLossy {bytes : List UInt8} (h : 0 ∉ bytes) :
    '\x00' ∉ (decodeLossy bytes).toList := by
  unfold decodeLossy
  rw [String.toList_ofList]
  exact zero_notMem_decodeLossyFrom h nofun

end Utf8

end PluginKit
