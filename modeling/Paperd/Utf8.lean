/-
# UTF-8 validation

A Rust `String` (and a `str`) is a byte sequence that is well-formed UTF-8, and
`std::str::from_utf8` is the check that makes one: it walks the bytes as
`core::str::validations::run_utf8_validation` does and, at the first sequence
no character encodes, reports where the valid prefix ends and how long the bad
sequence is. Nothing is decoded: a `str` is its bytes, so the model of a Rust
string is its byte list together with the proof that the walk accepts it.
-/

import Mathlib.Data.List.Basic

/-- Results of the program's fallible calls are compared in tests and witnesses. -/
instance decEqExcept {ε α : Type} [DecidableEq ε] [DecidableEq α] : DecidableEq (Except ε α)
  | .error a, .error b => decidable_of_iff (a = b) (Iff.of_eq (Except.error.injEq a b).symm)
  | .ok a, .ok b => decidable_of_iff (a = b) (Iff.of_eq (Except.ok.injEq a b).symm)
  | .error _, .ok _ => isFalse Except.noConfusion
  | .ok _, .error _ => isFalse Except.noConfusion

namespace Paperd.Utf8

/-- `Utf8Error`: the length of the valid prefix, and the length of the invalid
sequence after it, or `none` when the input ends inside a character. -/
structure Utf8Error where
  validUpTo : Nat
  errorLen : Option Nat
  deriving DecidableEq, Repr

/-- `impl Display for Utf8Error`. -/
def Utf8Error.toString (e : Utf8Error) : String :=
  let upTo := e.validUpTo
  match e.errorLen with
  | some len => s!"invalid utf-8 sequence of {len} bytes from index {upTo}"
  | none => s!"incomplete utf-8 byte sequence from index {upTo}"

instance : ToString Utf8Error := ⟨Utf8Error.toString⟩

/-- `utf8_char_width`: the length of the character a byte starts, `0` when it
starts none (a continuation byte, `0xC0`, `0xC1`, or `0xF5` and above). -/
def utf8CharWidth (b : UInt8) : Nat :=
  if b < 0x80 then 1
  else if b < 0xC2 then 0
  else if b < 0xE0 then 2
  else if b < 0xF0 then 3
  else if b < 0xF5 then 4
  else 0

/-- Whether a byte continues a character, `0x80..=0xBF`; Rust tests
`(b as i8) < -64`. -/
def isContinuation (b : UInt8) : Bool := 0x80 ≤ b && b < 0xC0

/-- The second byte a three- or four-byte character may have after `first`:
the ranges of the `match (first, next!())` arms, which rule out overlong forms,
surrogates and code points past `U+10FFFF`. -/
def secondByteOk (first second : UInt8) : Bool :=
  if first = 0xE0 then 0xA0 ≤ second && second ≤ 0xBF
  else if first = 0xED then 0x80 ≤ second && second ≤ 0x9F
  else if first = 0xF0 then 0x90 ≤ second && second ≤ 0xBF
  else if first = 0xF4 then 0x80 ≤ second && second ≤ 0x8F
  else 0x80 ≤ second && second ≤ 0xBF

/-- `run_utf8_validation` on the bytes from `index` on: `ok` when they are
well-formed, else the error at the first character that is not. A missing
byte (`next!()` past the end) gives `error_len = None`; a wrong one gives the
number of bytes read before it. The ASCII fast path is left out: it only skips
bytes below `0x80` faster. -/
def runUtf8Validation (index : Nat) : List UInt8 → Except Utf8Error Unit
  | [] => .ok ()
  | first :: rest =>
    let err := fun len => Except.error (Utf8Error.mk index len)
    match utf8CharWidth first, rest with
    | 1, rest => runUtf8Validation (index + 1) rest
    | 2, [] => err none
    | 2, second :: rest =>
      if isContinuation second then runUtf8Validation (index + 2) rest else err (some 1)
    | 3, [] => err none
    | 3, second :: rest =>
      if !secondByteOk first second then err (some 1)
      else match rest with
        | [] => err none
        | third :: rest =>
          if isContinuation third then runUtf8Validation (index + 3) rest else err (some 2)
    | 4, [] => err none
    | 4, second :: rest =>
      if !secondByteOk first second then err (some 1)
      else match rest with
        | [] => err none
        | third :: rest =>
          if !isContinuation third then err (some 2)
          else match rest with
            | [] => err none
            | fourth :: rest =>
              if isContinuation fourth then runUtf8Validation (index + 4) rest
              else err (some 3)
    | _, _ => err (some 1)

/-- A Rust `String`: its bytes, which are well-formed UTF-8. -/
structure RString where
  bytes : List UInt8
  valid : runUtf8Validation 0 bytes = .ok ()
  deriving DecidableEq

theorem RString.ext {s t : RString} (h : s.bytes = t.bytes) : s = t := by
  cases s; cases t; cases h; rfl

/-- `std::str::from_utf8`: the bytes as a string when they are well-formed. -/
def fromUtf8 (v : List UInt8) : Except Utf8Error RString :=
  match h : runUtf8Validation 0 v with
  | .ok () => .ok ⟨v, h⟩
  | .error e => .error e

/-- Decoding a string's own bytes gives the string back. -/
@[simp] theorem fromUtf8_bytes (s : RString) : fromUtf8 s.bytes = .ok s := by
  unfold fromUtf8
  split
  · rfl
  · next e h => exact absurd (s.valid.symm.trans h) (by simp)

end Paperd.Utf8
