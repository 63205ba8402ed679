/-
# Every string passes the validation

The model of `from_utf8` is `run_utf8_validation` as core writes it, a walk
over lead bytes and continuation bytes. What it is checked against here is the
encoding itself: the UTF-8 bytes of any sequence of Unicode scalar values, as
Lean's `String.utf8EncodeChar` writes them, pass the walk one character at a
time. So every text `serde_json` can produce is an `RString`, and the reply's
decoding in `receive_message` never rejects the bytes of a string.

The byte arithmetic goes through `toNat`: a tagged byte `x &&& mask ||| tag` is
the tag plus the low bits of `x`, and each of the walk's tests on a byte is a
comparison of its value.
-/

import Mathlib.Algebra.Group.Nat.Basic
import Paperd.Utf8

namespace Paperd.Utf8

/-- Bytes compare as their values. -/
theorem byte_lt_iff {a b : UInt8} : a < b ↔ a.toNat < b.toNat := by
  rw [UInt8.lt_def, BitVec.lt_def]; rfl

theorem byte_le_iff {a b : UInt8} : a ≤ b ↔ a.toNat ≤ b.toNat := by
  rw [UInt8.le_def, BitVec.le_def]; rfl

theorem byte_eq_iff {a b : UInt8} : a = b ↔ a.toNat = b.toNat :=
  ⟨congrArg UInt8.toNat, fun h => UInt8.eq_of_val_eq (Fin.ext h)⟩

/-- A tagged byte `x &&& (2^j - 1) ||| tag`, the tag a multiple of `2^j`, is the
tag plus the low `j` bits of `x`. -/
theorem toNat_tagged (x m k : UInt8) (j q : Nat) (hm : m.toNat = 2 ^ j - 1) (hk : k.toNat = 2 ^ j * q) :
    ((x &&& m) ||| k).toNat = 2 ^ j * q + x.toNat % 2 ^ j := by
  rw [show ((x &&& m) ||| k).toNat = (x &&& m).toNat ||| k.toNat from BitVec.toNat_or .., UInt8.and_toNat, hm, hk,
    Nat.and_pow_two_sub_one_eq_mod, Nat.or_comm, ← Nat.mul_add_lt_is_or (Nat.mod_lt _ (Nat.two_pow_pos j))]

/-- `v as u8`: the low byte. -/
theorem toNat_toUInt8 (v : UInt32) : v.toUInt8.toNat = v.toNat % 256 := by
  simp [UInt32.toUInt8, Nat.toUInt8, UInt8.ofNat, UInt8.toNat]

/-- `(v >> k) as u8`: the byte `k` bits up. -/
theorem toNat_shiftRight_toUInt8 (v k : UInt32) (small : k.toNat < 32) :
    (v >>> k).toUInt8.toNat = v.toNat / 2 ^ k.toNat % 256 := by
  rw [toNat_toUInt8]
  show (v.toBitVec >>> (UInt32.mod k 32).toBitVec).toNat % 256 = _
  simp [BitVec.toNat_ushiftRight, Nat.shiftRight_eq_div_pow, UInt32.mod, BitVec.toNat_umod]
  rw [Nat.mod_eq_of_lt (show k.toBitVec.toNat < 32 from small)]
  rfl

theorem toNat_byte6 (v : UInt32) : (v >>> 6).toUInt8.toNat = v.toNat / 64 % 256 :=
  toNat_shiftRight_toUInt8 v 6 (by decide)

theorem toNat_byte12 (v : UInt32) : (v >>> 12).toUInt8.toNat = v.toNat / 4096 % 256 :=
  toNat_shiftRight_toUInt8 v 12 (by decide)

theorem toNat_byte18 (v : UInt32) : (v >>> 18).toUInt8.toNat = v.toNat / 262144 % 256 :=
  toNat_shiftRight_toUInt8 v 18 (by decide)

/-- `utf8_char_width` on the byte's value. -/
theorem utf8CharWidth_eq (b : UInt8) : utf8CharWidth b =
    if b.toNat < 0x80 then 1 else if b.toNat < 0xC2 then 0 else if b.toNat < 0xE0 then 2
    else if b.toNat < 0xF0 then 3 else if b.toNat < 0xF5 then 4 else 0 := by
  simp only [utf8CharWidth, byte_lt_iff]
  rfl

/-- A byte in `0x80..=0xBF` continues a character. -/
theorem isContinuation_of {b : UInt8} (lo : 0x80 ≤ b.toNat) (hi : b.toNat < 0xC0) : isContinuation b = true := by
  have : (0x80 ≤ b.toNat && b.toNat < 0xC0) = true := by simp [lo, hi]
  simpa only [isContinuation, byte_lt_iff, byte_le_iff] using this

/-- `secondByteOk` on the bytes' values. -/
theorem secondByteOk_eq (first second : UInt8) : secondByteOk first second =
    if first.toNat = 0xE0 then 0xA0 ≤ second.toNat && second.toNat ≤ 0xBF
    else if first.toNat = 0xED then 0x80 ≤ second.toNat && second.toNat ≤ 0x9F
    else if first.toNat = 0xF0 then 0x90 ≤ second.toNat && second.toNat ≤ 0xBF
    else if first.toNat = 0xF4 then 0x80 ≤ second.toNat && second.toNat ≤ 0x8F
    else 0x80 ≤ second.toNat && second.toNat ≤ 0xBF := by
  simp only [secondByteOk, byte_eq_iff, byte_le_iff]
  rfl

/-- A continuation byte passes as a second byte unless the lead byte is one of
the four that narrow the range, and then it lies in that range. -/
theorem secondByteOk_of {first second : UInt8} (lo : 0x80 ≤ second.toNat) (hi : second.toNat ≤ 0xBF)
    (e0 : first.toNat = 0xE0 → 0xA0 ≤ second.toNat) (ed : first.toNat = 0xED → second.toNat ≤ 0x9F)
    (f0 : first.toNat = 0xF0 → 0x90 ≤ second.toNat) (f4 : first.toNat = 0xF4 → second.toNat ≤ 0x8F) :
    secondByteOk first second = true := by
  rw [secondByteOk_eq]
  split_ifs with h₀ h₁ h₂ h₃ <;> simp only [Bool.and_eq_true, decide_eq_true_eq]
  · exact ⟨e0 h₀, hi⟩
  · exact ⟨lo, ed h₁⟩
  · exact ⟨f0 h₂, hi⟩
  · exact ⟨lo, f4 h₃⟩
  · exact ⟨lo, hi⟩

/-- The walk over a character of one byte. -/
theorem runUtf8Validation_one {i : Nat} {first : UInt8} {rest : List UInt8} (width : utf8CharWidth first = 1) :
    runUtf8Validation i (first :: rest) = runUtf8Validation (i + 1) rest := by
  conv_lhs => unfold runUtf8Validation
  dsimp only
  rw [width]

/-- The walk over a well-formed character of two bytes. -/
theorem runUtf8Validation_two {i : Nat} {first second : UInt8} {rest : List UInt8} (width : utf8CharWidth first = 2)
    (cont : isContinuation second = true) :
    runUtf8Validation i (first :: second :: rest) = runUtf8Validation (i + 2) rest := by
  conv_lhs => unfold runUtf8Validation
  dsimp only
  rw [width]
  exact if_pos cont

/-- The walk over a well-formed character of three bytes. -/
theorem runUtf8Validation_three {i : Nat} {first second third : UInt8} {rest : List UInt8}
    (width : utf8CharWidth first = 3) (ok : secondByteOk first second = true) (cont : isContinuation third = true) :
    runUtf8Validation i (first :: second :: third :: rest) = runUtf8Validation (i + 3) rest := by
  conv_lhs => unfold runUtf8Validation
  dsimp only
  rw [width]
  exact (if_neg (by simp [ok])).trans (if_pos cont)

/-- The walk over a well-formed character of four bytes. -/
theorem runUtf8Validation_four {i : Nat} {first second third fourth : UInt8} {rest : List UInt8}
    (width : utf8CharWidth first = 4) (ok : secondByteOk first second = true) (cont : isContinuation third = true)
    (cont' : isContinuation fourth = true) :
    runUtf8Validation i (first :: second :: third :: fourth :: rest) = runUtf8Validation (i + 4) rest := by
  conv_lhs => unfold runUtf8Validation
  dsimp only
  rw [width]
  exact (if_neg (by simp [ok])).trans ((if_neg (by simp [cont])).trans (if_pos cont'))

/-- **One character.** The walk passes over the encoding of any character: the
lead byte announces the encoding's length, the second byte lies in the range
that lead byte allows (no overlong form, no surrogate, nothing past
`U+10FFFF`, since a character is a scalar value), and the bytes after it
continue. -/
theorem runUtf8Validation_utf8EncodeChar (c : Char) (i : Nat) (rest : List UInt8) :
    runUtf8Validation i (String.utf8EncodeChar c ++ rest) =
      runUtf8Validation (i + (String.utf8EncodeChar c).length) rest := by
  have low3 := fun x : UInt8 => toNat_tagged x 0x07 0xf0 3 30 rfl rfl
  have low4 := fun x : UInt8 => toNat_tagged x 0x0f 0xe0 4 14 rfl rfl
  have low5 := fun x : UInt8 => toNat_tagged x 0x1f 0xc0 5 6 rfl rfl
  have low6 := fun x : UInt8 => toNat_tagged x 0x3f 0x80 6 2 rfl rfl
  unfold String.utf8EncodeChar
  simp only [UInt32.le_def, BitVec.le_def]
  split_ifs with one two three
  · replace one : c.val.toNat ≤ 0x7f := one
    rw [List.singleton_append, runUtf8Validation_one (by rw [utf8CharWidth_eq, toNat_toUInt8, if_pos (by omega)])]
    rfl
  · replace one : ¬c.val.toNat ≤ 0x7f := one
    replace two : c.val.toNat ≤ 0x7ff := two
    rw [List.cons_append, List.singleton_append, runUtf8Validation_two
      (by rw [utf8CharWidth_eq, low5, toNat_byte6, if_neg (by omega), if_neg (by omega), if_pos (by omega)])
      (isContinuation_of (by rw [low6]; omega) (by rw [low6]; omega))]
    rfl
  · replace two : ¬c.val.toNat ≤ 0x7ff := two
    replace three : c.val.toNat ≤ 0xffff := three
    clear one
    have valid : c.val.toNat < 0xD800 ∨ 0xDFFF < c.val.toNat := c.valid.imp_right And.left
    rw [List.cons_append, List.cons_append, List.singleton_append, runUtf8Validation_three
      (by rw [utf8CharWidth_eq, low4, if_neg (by omega), if_neg (by omega), if_neg (by omega), if_pos (by omega)])
      (secondByteOk_of (by rw [low6]; omega) (by rw [low6]; omega)
        (by rw [low4, low6, toNat_byte12, toNat_byte6]; omega) (by rw [low4, low6, toNat_byte12, toNat_byte6]; omega)
        (by rw [low4]; omega) (by rw [low4]; omega))
      (isContinuation_of (by rw [low6]; omega) (by rw [low6]; omega))]
    rfl
  · replace three : ¬c.val.toNat ≤ 0xffff := three
    clear one two
    have valid : c.val.toNat < 0x110000 := c.valid.elim (fun small => by omega) And.right
    rw [List.cons_append, List.cons_append, List.cons_append, List.singleton_append, runUtf8Validation_four
      (by rw [utf8CharWidth_eq, low3, toNat_byte18, if_neg (by omega), if_neg (by omega), if_neg (by omega),
        if_neg (by omega), if_pos (by omega)])
      (secondByteOk_of (by rw [low6]; omega) (by rw [low6]; omega) (by rw [low3]; omega) (by rw [low3]; omega)
        (by rw [low3, low6, toNat_byte18, toNat_byte12]; omega) (by rw [low3, low6, toNat_byte18, toNat_byte12]; omega))
      (isContinuation_of (by rw [low6]; omega) (by rw [low6]; omega))
      (isContinuation_of (by rw [low6]; omega) (by rw [low6]; omega))]
    rfl

/-- The walk accepts the encoding of any list of characters, from any index. -/
theorem runUtf8Validation_flatMap (cs : List Char) (i : Nat) :
    runUtf8Validation i (cs.flatMap String.utf8EncodeChar) = .ok () := by
  induction cs generalizing i with
  | nil => rfl
  | cons c cs ih => rw [List.flatMap_cons, runUtf8Validation_utf8EncodeChar, ih]

/-- The UTF-8 bytes of a string pass the walk, and `from_utf8` hands them back
as a `String`. -/
theorem fromUtf8_toUTF8 (s : String) :
    fromUtf8 s.toUTF8.data.toList = .ok ⟨s.toUTF8.data.toList, runUtf8Validation_flatMap s.data 0⟩ :=
  fromUtf8_bytes ⟨s.toUTF8.data.toList, runUtf8Validation_flatMap s.data 0⟩

/-- **Strings decode.** `from_utf8` accepts the UTF-8 bytes of every string and
hands them back unchanged. -/
theorem fromUtf8_accepts_strings (s : String) :
    ∃ t : RString, fromUtf8 s.toUTF8.data.toList = .ok t ∧ t.bytes = s.toUTF8.data.toList :=
  ⟨_, fromUtf8_toUTF8 s, rfl⟩

end Paperd.Utf8
