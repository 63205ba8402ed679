/-
# Only strings pass the validation

The converse of the encoding module: every byte sequence `run_utf8_validation`
accepts is the UTF-8 encoding of a sequence of characters, so `from_utf8`
accepts exactly the bytes of strings. When it refuses, its `Utf8Error` is
where the walk stopped: the bytes before `valid_up_to` are a string's, the
bytes from there on start with no character's encoding, and `error_len` is
`None` exactly when those bytes are a character's encoding cut short by the end
of the input, else one to three bytes.

The walk is taken one character at a time (`runUtf8Validation_cons`): each
accepted step reads the bytes of one character, whose value is put back
together from the payload bits of its bytes; each refused step stops at the
index it started from.
-/

import Paperd.Utf8.Encoding

namespace Paperd.Utf8

/-- The UTF-8 encoding of the scalar value `n`, as byte values: the lead byte
carries the length and the top bits, each continuation byte six more bits. -/
def encodedValues (n : Nat) : List Nat :=
  if n ≤ 0x7F then [n]
  else if n ≤ 0x7FF then [0xC0 + n / 64 % 32, 0x80 + n % 64]
  else if n ≤ 0xFFFF then [0xE0 + n / 4096 % 16, 0x80 + n / 64 % 64, 0x80 + n % 64]
  else [0xF0 + n / 262144 % 8, 0x80 + n / 4096 % 64, 0x80 + n / 64 % 64, 0x80 + n % 64]

/-- Lean's encoding of a character, byte by byte as numbers. -/
theorem map_toNat_utf8EncodeChar (c : Char) :
    (String.utf8EncodeChar c).map UInt8.toNat = encodedValues c.toNat := by
  have low3 := fun x : UInt8 => toNat_tagged x 0x07 0xf0 3 30 rfl rfl
  have low4 := fun x : UInt8 => toNat_tagged x 0x0f 0xe0 4 14 rfl rfl
  have low5 := fun x : UInt8 => toNat_tagged x 0x1f 0xc0 5 6 rfl rfl
  have low6 := fun x : UInt8 => toNat_tagged x 0x3f 0x80 6 2 rfl rfl
  unfold String.utf8EncodeChar encodedValues Char.toNat
  have small : c.val.toNat < 0x110000 := c.valid.elim (fun lo => by omega) And.right
  dsimp only
  by_cases one : c.val.toNat ≤ 0x7F
  · rw [if_pos (show c.val ≤ 127 from one), if_pos one]
    simp only [List.map_cons, List.map_nil, toNat_toUInt8, List.cons.injEq, and_true]
    omega
  rw [if_neg (show ¬c.val ≤ 127 from one), if_neg one]
  by_cases two : c.val.toNat ≤ 0x7FF
  · rw [if_pos (show c.val ≤ 2047 from two), if_pos two]
    simp only [List.map_cons, List.map_nil, low5, low6, List.cons.injEq, and_true]
    rw [toNat_byte6, toNat_toUInt8]
    omega
  rw [if_neg (show ¬c.val ≤ 2047 from two), if_neg two]
  by_cases three : c.val.toNat ≤ 0xFFFF
  · rw [if_pos (show c.val ≤ 65535 from three), if_pos three]
    simp only [List.map_cons, List.map_nil, low4, low6, List.cons.injEq, and_true]
    rw [toNat_byte12, toNat_byte6, toNat_toUInt8]
    omega
  rw [if_neg (show ¬c.val ≤ 65535 from three), if_neg three]
  simp only [List.map_cons, List.map_nil, low3, low6, List.cons.injEq, and_true]
  rw [toNat_byte18, toNat_byte12, toNat_byte6, toNat_toUInt8]
  omega

/-- Bytes whose values are the encoding of a scalar value are the encoding of
that character. -/
theorem exists_utf8EncodeChar {n : Nat} (valid : n.isValidChar) {bytes : List UInt8}
    (values : encodedValues n = bytes.map UInt8.toNat) : ∃ c, String.utf8EncodeChar c = bytes :=
  ⟨Char.ofNatAux n valid, List.map_injective_iff.mpr (fun _ _ => byte_eq_iff.mpr)
    ((map_toNat_utf8EncodeChar _).trans values)⟩

/-- The lead bytes of each width `utf8_char_width` gives. -/
theorem lead_of_utf8CharWidth {b : UInt8} {w : Nat} (hw : utf8CharWidth b = w) :
    (w = 1 → b.toNat < 0x80) ∧ (w = 2 → 0xC2 ≤ b.toNat ∧ b.toNat < 0xE0) ∧
      (w = 3 → 0xE0 ≤ b.toNat ∧ b.toNat < 0xF0) ∧ (w = 4 → 0xF0 ≤ b.toNat ∧ b.toNat < 0xF5) := by
  rw [utf8CharWidth_eq] at hw
  split_ifs at hw <;> omega

theorem bounds_of_isContinuation {b : UInt8} (cont : isContinuation b = true) :
    0x80 ≤ b.toNat ∧ b.toNat < 0xC0 := by
  simpa only [isContinuation, byte_lt_iff, byte_le_iff, Bool.and_eq_true, decide_eq_true_eq] using cont

/-- A continuation byte is `0x80` plus six payload bits. -/
theorem payload_of_isContinuation {b : UInt8} (cont : isContinuation b = true) :
    ∃ p, p < 64 ∧ b.toNat = 0x80 + p := by
  have bounds := bounds_of_isContinuation cont
  exact ⟨b.toNat - 0x80, by omega, by omega⟩

/-- A second byte `secondByteOk` passes continues the character, in the
narrower range the four lead bytes `E0`, `ED`, `F0` and `F4` allow. -/
theorem bounds_of_secondByteOk {first second : UInt8} (ok : secondByteOk first second = true) :
    0x80 ≤ second.toNat ∧ second.toNat ≤ 0xBF ∧ (first.toNat ≠ 0xE0 ∨ 0xA0 ≤ second.toNat) ∧
      (first.toNat ≠ 0xED ∨ second.toNat ≤ 0x9F) ∧ (first.toNat ≠ 0xF0 ∨ 0x90 ≤ second.toNat) ∧
      (first.toNat ≠ 0xF4 ∨ second.toNat ≤ 0x8F) := by
  rw [secondByteOk_eq] at ok
  split_ifs at ok <;> simp only [Bool.and_eq_true, decide_eq_true_eq] at ok <;> omega

/-- The encoding of a value past `0x7F` that fits in two bytes, from its
payloads. -/
theorem encodedValues_two {a b : Nat} (hb : b < 64) (range : 0x80 ≤ a * 64 + b ∧ a * 64 + b ≤ 0x7FF) :
    encodedValues (a * 64 + b) = [0xC0 + a, 0x80 + b] := by
  rw [encodedValues, if_neg (by omega), if_pos range.2]
  simp only [List.cons.injEq, and_true]
  omega

/-- The encoding of a value past `0x7FF` that fits in three bytes. -/
theorem encodedValues_three {a b c : Nat} (hb : b < 64) (hc : c < 64)
    (range : 0x800 ≤ a * 4096 + b * 64 + c ∧ a * 4096 + b * 64 + c ≤ 0xFFFF) :
    encodedValues (a * 4096 + b * 64 + c) = [0xE0 + a, 0x80 + b, 0x80 + c] := by
  rw [encodedValues, if_neg (by omega), if_neg (by omega), if_pos range.2]
  simp only [List.cons.injEq, and_true]
  exact ⟨by omega, by omega, by omega⟩

/-- The encoding of a value past `0xFFFF`, in four bytes. -/
theorem encodedValues_four {a b c d : Nat} (hb : b < 64) (hc : c < 64) (hd : d < 64)
    (big : 0xFFFF < a * 262144 + b * 4096 + c * 64 + d) (ha : a < 8) :
    encodedValues (a * 262144 + b * 4096 + c * 64 + d) = [0xF0 + a, 0x80 + b, 0x80 + c, 0x80 + d] := by
  rw [encodedValues, if_neg (by omega), if_neg (by omega), if_neg (by omega)]
  simp only [List.cons.injEq, and_true]
  exact ⟨by omega, by omega, by omega, by omega⟩

/-- The error lengths the walk reports: none when the input ends inside a
character, else one to three bytes. -/
def errorLens : List (Option Nat) := [none, some 1, some 2, some 3]

/-- A lone byte below `0x80` is a character. -/
theorem utf8EncodeChar_of_one {first : UInt8} (width : utf8CharWidth first = 1) :
    ∃ c, String.utf8EncodeChar c = [first] := by
  have lead := (lead_of_utf8CharWidth width).1 rfl
  exact @exists_utf8EncodeChar first.toNat (.inl (by omega)) [first]
    (by rw [encodedValues, if_pos (by omega)]; rfl)

/-- A two-byte lead byte and a continuation byte are a character. -/
theorem utf8EncodeChar_of_two {first second : UInt8} (width : utf8CharWidth first = 2)
    (cont : isContinuation second = true) : ∃ c, String.utf8EncodeChar c = [first, second] := by
  obtain ⟨a, lead, range⟩ : ∃ a, first.toNat = 0xC0 + a ∧ 2 ≤ a ∧ a < 32 := by
    have lead := (lead_of_utf8CharWidth width).2.1 rfl
    exact ⟨first.toNat - 0xC0, by omega, by omega, by omega⟩
  obtain ⟨b, hb, second₁⟩ := payload_of_isContinuation cont
  refine @exists_utf8EncodeChar (a * 64 + b) (.inl (by omega)) [first, second] ?_
  rw [encodedValues_two hb (by omega)]
  simp only [List.map_cons, List.map_nil, lead, second₁]

/-- Three bytes the walk reads as one character are one: the narrowed second
byte rules out overlong forms and surrogates. -/
theorem utf8EncodeChar_of_three {first second third : UInt8} (width : utf8CharWidth first = 3)
    (ok : secondByteOk first second = true) (cont : isContinuation third = true) :
    ∃ c, String.utf8EncodeChar c = [first, second, third] := by
  obtain ⟨a, lead, ha⟩ : ∃ a, first.toNat = 0xE0 + a ∧ a < 16 := by
    have lead := (lead_of_utf8CharWidth width).2.2.1 rfl
    exact ⟨first.toNat - 0xE0, by omega, by omega⟩
  obtain ⟨lo, hi, e0, ed, -, -⟩ := bounds_of_secondByteOk ok
  obtain ⟨b, second₁, hb, range⟩ : ∃ b, second.toNat = 0x80 + b ∧ b < 64 ∧ (a = 0 → 0x20 ≤ b) ∧ (a = 0xD → b < 0x20) :=
    ⟨second.toNat - 0x80, by omega, by omega, by omega, by omega⟩
  obtain ⟨c, hc, third₁⟩ := payload_of_isContinuation cont
  clear e0 ed lo hi
  refine @exists_utf8EncodeChar (a * 4096 + b * 64 + c) (by unfold Nat.isValidChar; omega) [first, second, third] ?_
  rw [encodedValues_three hb hc (by omega)]
  simp only [List.map_cons, List.map_nil, lead, second₁, third₁]

/-- Four bytes the walk reads as one character are one: the narrowed second
byte rules out overlong forms and values past `U+10FFFF`. -/
theorem utf8EncodeChar_of_four {first second third fourth : UInt8} (width : utf8CharWidth first = 4)
    (ok : secondByteOk first second = true) (cont : isContinuation third = true)
    (cont' : isContinuation fourth = true) : ∃ c, String.utf8EncodeChar c = [first, second, third, fourth] := by
  obtain ⟨a, lead, ha⟩ : ∃ a, first.toNat = 0xF0 + a ∧ a < 5 := by
    have lead := (lead_of_utf8CharWidth width).2.2.2 rfl
    exact ⟨first.toNat - 0xF0, by omega, by omega⟩
  obtain ⟨lo, hi, -, -, f0, f4⟩ := bounds_of_secondByteOk ok
  obtain ⟨b, second₁, hb, range⟩ : ∃ b, second.toNat = 0x80 + b ∧ b < 64 ∧ (a = 0 → 0x10 ≤ b) ∧ (a = 4 → b < 0x10) :=
    ⟨second.toNat - 0x80, by omega, by omega, by omega, by omega⟩
  obtain ⟨c, hc, third₁⟩ := payload_of_isContinuation cont
  obtain ⟨d, hd, fourth₁⟩ := payload_of_isContinuation cont'
  clear f0 f4 lo hi
  refine @exists_utf8EncodeChar (a * 262144 + b * 4096 + c * 64 + d) (by unfold Nat.isValidChar; omega)
    [first, second, third, fourth] ?_
  rw [encodedValues_four hb hc hd (by omega) (by omega)]
  simp only [List.map_cons, List.map_nil, lead, second₁, third₁, fourth₁]

/-- A step over the bytes of a character, as `runUtf8Validation_cons` states it. -/
theorem reads_char {i : Nat} {bytes rest : List UInt8} (enc : ∃ c, String.utf8EncodeChar c = bytes)
    (step : runUtf8Validation i (bytes ++ rest) = runUtf8Validation (i + bytes.length) rest) :
    ∃ c rest', bytes ++ rest = String.utf8EncodeChar c ++ rest' ∧
      runUtf8Validation i (bytes ++ rest) = runUtf8Validation (i + (String.utf8EncodeChar c).length) rest' := by
  obtain ⟨c, rfl⟩ := enc
  exact ⟨c, rest, rfl, step⟩

/-- **One step of the walk.** From a lead byte the walk either stops at the
index it started from, with one of `errorLens`, or reads the bytes of one
character and goes on after them. -/
theorem runUtf8Validation_cons (i : Nat) (first : UInt8) (rest : List UInt8) :
    (∃ l ∈ errorLens, runUtf8Validation i (first :: rest) = .error ⟨i, l⟩) ∨
    ∃ c rest', first :: rest = String.utf8EncodeChar c ++ rest' ∧
      runUtf8Validation i (first :: rest) = runUtf8Validation (i + (String.utf8EncodeChar c).length) rest' := by
  rcases hw : utf8CharWidth first with _ | _ | _ | _ | _ | w
  · exact .inl ⟨some 1, by decide, by unfold runUtf8Validation; simp only [hw]⟩
  · exact .inr (reads_char (utf8EncodeChar_of_one hw) (runUtf8Validation_one hw))
  · rcases rest with _ | ⟨second, rest⟩
    · exact .inl ⟨none, by decide, by simp only [runUtf8Validation, hw]⟩
    by_cases cont : isContinuation second
    · exact .inr (reads_char (utf8EncodeChar_of_two hw cont) (runUtf8Validation_two hw cont))
    · exact .inl ⟨some 1, by decide, by simp [runUtf8Validation, hw, cont]⟩
  · rcases rest with _ | ⟨second, _ | ⟨third, rest⟩⟩
    · exact .inl ⟨none, by decide, by simp only [runUtf8Validation, hw]⟩
    · by_cases ok : secondByteOk first second
      · exact .inl ⟨none, by decide, by simp [runUtf8Validation, hw, ok]⟩
      · exact .inl ⟨some 1, by decide, by simp [runUtf8Validation, hw, ok]⟩
    by_cases ok : secondByteOk first second
    · by_cases cont : isContinuation third
      · exact .inr (reads_char (utf8EncodeChar_of_three hw ok cont) (runUtf8Validation_three hw ok cont))
      · exact .inl ⟨some 2, by decide, by simp [runUtf8Validation, hw, ok, cont]⟩
    · exact .inl ⟨some 1, by decide, by simp [runUtf8Validation, hw, ok]⟩
  · rcases rest with _ | ⟨second, _ | ⟨third, _ | ⟨fourth, rest⟩⟩⟩
    · exact .inl ⟨none, by decide, by simp only [runUtf8Validation, hw]⟩
    · by_cases ok : secondByteOk first second
      · exact .inl ⟨none, by decide, by simp [runUtf8Validation, hw, ok]⟩
      · exact .inl ⟨some 1, by decide, by simp [runUtf8Validation, hw, ok]⟩
    · by_cases ok : secondByteOk first second
      · by_cases cont : isContinuation third
        · exact .inl ⟨none, by decide, by simp [runUtf8Validation, hw, ok, cont]⟩
        · exact .inl ⟨some 2, by decide, by simp [runUtf8Validation, hw, ok, cont]⟩
      · exact .inl ⟨some 1, by decide, by simp [runUtf8Validation, hw, ok]⟩
    by_cases ok : secondByteOk first second
    · by_cases cont : isContinuation third
      · by_cases cont' : isContinuation fourth
        · exact .inr (reads_char (utf8EncodeChar_of_four hw ok cont cont') (runUtf8Validation_four hw ok cont cont'))
        · exact .inl ⟨some 3, by decide, by simp [runUtf8Validation, hw, ok, cont, cont']⟩
      · exact .inl ⟨some 2, by decide, by simp [runUtf8Validation, hw, ok, cont]⟩
    · exact .inl ⟨some 1, by decide, by simp [runUtf8Validation, hw, ok]⟩
  · exact .inl ⟨some 1, by decide, by unfold runUtf8Validation; simp only [hw]⟩

/-- A character's bytes are never empty, so each accepted step shortens what
is left. -/
theorem length_lt_of_split {first : UInt8} {rest rest' : List UInt8} {c : Char}
    (split : first :: rest = String.utf8EncodeChar c ++ rest') : rest'.length < (first :: rest).length := by
  rw [split, List.length_append, String.length_utf8EncodeChar]
  exact Nat.lt_add_of_pos_left (Char.utf8Size_pos c)

/-- The walk never reports an error before the index it started from. -/
theorem le_validUpTo (v : List UInt8) (i : Nat) {e : Utf8Error} (refused : runUtf8Validation i v = .error e) :
    i ≤ e.validUpTo :=
  match v with
  | [] => nomatch refused
  | first :: rest =>
    match runUtf8Validation_cons i first rest with
    | .inl ⟨_, _, stop⟩ => by
      rw [stop] at refused
      cases refused
      exact Nat.le_refl i
    | .inr ⟨c, rest', split, step⟩ =>
      have shorter := length_lt_of_split split
      have later := le_validUpTo rest' _ (step ▸ refused)
      by omega
termination_by v.length

/-- The walk refuses the bytes of no character where it stops: it would have
read them and gone on. -/
theorem not_utf8EncodeChar_prefix {w : List UInt8} {i : Nat} {l : Option Nat}
    (refused : runUtf8Validation i w = .error ⟨i, l⟩) : ¬∃ c rest, w = String.utf8EncodeChar c ++ rest := by
  rintro ⟨c, rest, rfl⟩
  rw [runUtf8Validation_utf8EncodeChar] at refused
  have later := le_validUpTo rest _ refused
  have pos := String.length_utf8EncodeChar c ▸ Char.utf8Size_pos c
  dsimp only at later
  omega

/-- What a whole walk does: it accepts bytes that are the encoding of some
characters; or it reads the encoding of some characters and stops at the first
bytes after them that start no character's encoding, with the index of those
bytes and one of `errorLens`. -/
theorem runUtf8Validation_spec (v : List UInt8) (i : Nat) :
    (runUtf8Validation i v = .ok () ∧ ∃ cs : List Char, cs.flatMap String.utf8EncodeChar = v) ∨
    ∃ (cs : List Char) (w : List UInt8), ∃ l ∈ errorLens, cs.flatMap String.utf8EncodeChar ++ w = v ∧ w ≠ [] ∧
      (¬∃ c rest, w = String.utf8EncodeChar c ++ rest) ∧
      runUtf8Validation i v = .error ⟨i + (cs.flatMap String.utf8EncodeChar).length, l⟩ :=
  match v with
  | [] => .inl ⟨rfl, [], rfl⟩
  | first :: rest =>
    match runUtf8Validation_cons i first rest with
    | .inl ⟨l, mem, stop⟩ =>
      .inr ⟨[], first :: rest, l, mem, rfl, List.cons_ne_nil _ _, not_utf8EncodeChar_prefix stop, stop⟩
    | .inr ⟨c, rest', split, step⟩ =>
      have shorter := length_lt_of_split split
      match runUtf8Validation_spec rest' (i + (String.utf8EncodeChar c).length) with
      | .inl ⟨accepted, cs, encoded⟩ =>
        .inl ⟨step.trans accepted, c :: cs, by rw [split, ← encoded]; rfl⟩
      | .inr ⟨cs, w, l, mem, encoded, nonempty, noChar, refused⟩ =>
        .inr ⟨c :: cs, w, l, mem, by rw [split, ← encoded, List.flatMap_cons, List.append_assoc], nonempty, noChar,
          by rw [step, refused, List.flatMap_cons, List.length_append, Nat.add_assoc]⟩
termination_by v.length

/-- The least second byte `secondByteOk` lets a lead byte have. -/
def leastSecond (first : UInt8) : UInt8 :=
  if first = 0xE0 then 0xA0 else if first = 0xF0 then 0x90 else 0x80

theorem secondByteOk_leastSecond (first : UInt8) : secondByteOk first (leastSecond first) = true := by
  unfold secondByteOk leastSecond
  by_cases e0 : first = 0xE0
  · simp only [e0]; decide
  by_cases f0 : first = 0xF0
  · simp only [f0]; decide
  simp only [e0, f0, if_false]
  split_ifs <;> decide

/-- A step that read a whole character stops nowhere before its end. -/
theorem not_stop_of_read {i n : Nat} {rest : List UInt8} {l : Option Nat} (pos : 0 < n)
    (stop : runUtf8Validation (i + n) rest = .error ⟨i, l⟩) : False := by
  have later := le_validUpTo rest _ stop
  dsimp only at later
  omega

/-- **Where the walk stops, and why.** A walk that stops at the index it
started from either ran out of bytes inside a character, and then the bytes are
the start of some character's encoding and `error_len` is `None`; or it met a
byte that continues no character, and then it stops there, with the same
length, whatever bytes follow. -/
theorem runUtf8Validation_stop {i : Nat} {first : UInt8} {rest : List UInt8} {l : Option Nat}
    (stop : runUtf8Validation i (first :: rest) = .error ⟨i, l⟩) :
    (l = none ∧ ∃ c, first :: rest <+: String.utf8EncodeChar c) ∨
      ∃ k, l = some k ∧ ∀ t, runUtf8Validation i (first :: rest ++ t) = .error ⟨i, some k⟩ := by
  have cont : isContinuation 0x80 = true := by decide
  rcases hw : utf8CharWidth first with _ | _ | _ | _ | _ | w
  · have bad : ∀ t, runUtf8Validation i (first :: t) = .error ⟨i, some 1⟩ := fun t => by
      unfold runUtf8Validation; simp only [hw]
    rw [bad] at stop
    cases stop
    exact .inr ⟨1, rfl, fun t => bad _⟩
  · rw [runUtf8Validation_one hw] at stop
    exact (not_stop_of_read Nat.one_pos stop).elim
  · rcases rest with _ | ⟨second, rest⟩
    · simp only [runUtf8Validation, hw] at stop
      cases stop
      obtain ⟨c, enc⟩ := utf8EncodeChar_of_two hw cont
      exact .inl ⟨rfl, c, [0x80], enc.symm⟩
    by_cases next : isContinuation second
    · rw [runUtf8Validation_two hw next] at stop
      exact (not_stop_of_read (by decide) stop).elim
    · have bad : ∀ t, runUtf8Validation i (first :: second :: t) = .error ⟨i, some 1⟩ := fun t => by
        simp [runUtf8Validation, hw, next]
      rw [bad] at stop
      cases stop
      exact .inr ⟨1, rfl, fun t => bad _⟩
  · rcases rest with _ | ⟨second, rest⟩
    · simp only [runUtf8Validation, hw] at stop
      cases stop
      obtain ⟨c, enc⟩ := utf8EncodeChar_of_three hw (secondByteOk_leastSecond first) cont
      exact .inl ⟨rfl, c, [leastSecond first, 0x80], enc.symm⟩
    by_cases ok : secondByteOk first second
    · rcases rest with _ | ⟨third, rest⟩
      · simp [runUtf8Validation, hw, ok] at stop
        cases stop
        obtain ⟨c, enc⟩ := utf8EncodeChar_of_three hw ok cont
        exact .inl ⟨rfl, c, [0x80], enc.symm⟩
      by_cases next : isContinuation third
      · rw [runUtf8Validation_three hw ok next] at stop
        exact (not_stop_of_read (by decide) stop).elim
      · have bad : ∀ t, runUtf8Validation i (first :: second :: third :: t) = .error ⟨i, some 2⟩ := fun t => by
          conv_lhs => unfold runUtf8Validation
          dsimp only
          rw [hw]
          exact (if_neg (by simp [ok])).trans (if_neg next)
        rw [bad] at stop
        cases stop
        exact .inr ⟨2, rfl, fun t => bad _⟩
    · have bad : ∀ t, runUtf8Validation i (first :: second :: t) = .error ⟨i, some 1⟩ := fun t => by
        conv_lhs => unfold runUtf8Validation
        dsimp only
        rw [hw]
        exact if_pos (by simpa using ok)
      rw [bad] at stop
      cases stop
      exact .inr ⟨1, rfl, fun t => bad _⟩
  · rcases rest with _ | ⟨second, rest⟩
    · simp only [runUtf8Validation, hw] at stop
      cases stop
      obtain ⟨c, enc⟩ := utf8EncodeChar_of_four hw (secondByteOk_leastSecond first) cont cont
      exact .inl ⟨rfl, c, [leastSecond first, 0x80, 0x80], enc.symm⟩
    by_cases ok : secondByteOk first second
    · rcases rest with _ | ⟨third, rest⟩
      · simp [runUtf8Validation, hw, ok] at stop
        cases stop
        obtain ⟨c, enc⟩ := utf8EncodeChar_of_four hw ok cont cont
        exact .inl ⟨rfl, c, [0x80, 0x80], enc.symm⟩
      by_cases next : isContinuation third
      · rcases rest with _ | ⟨fourth, rest⟩
        · simp [runUtf8Validation, hw, ok, next] at stop
          cases stop
          obtain ⟨c, enc⟩ := utf8EncodeChar_of_four hw ok next cont
          exact .inl ⟨rfl, c, [0x80], enc.symm⟩
        by_cases last : isContinuation fourth
        · rw [runUtf8Validation_four hw ok next last] at stop
          exact (not_stop_of_read (by decide) stop).elim
        · have bad : ∀ t, runUtf8Validation i (first :: second :: third :: fourth :: t) = .error ⟨i, some 3⟩ :=
            fun t => by
              conv_lhs => unfold runUtf8Validation
              dsimp only
              rw [hw]
              exact (if_neg (by simp [ok])).trans ((if_neg (by simp [next])).trans (if_neg last))
          rw [bad] at stop
          cases stop
          exact .inr ⟨3, rfl, fun t => bad _⟩
      · have bad : ∀ t, runUtf8Validation i (first :: second :: third :: t) = .error ⟨i, some 2⟩ := fun t => by
          conv_lhs => unfold runUtf8Validation
          dsimp only
          rw [hw]
          exact (if_neg (by simp [ok])).trans (if_pos (by simpa using next))
        rw [bad] at stop
        cases stop
        exact .inr ⟨2, rfl, fun t => bad _⟩
    · have bad : ∀ t, runUtf8Validation i (first :: second :: t) = .error ⟨i, some 1⟩ := fun t => by
        conv_lhs => unfold runUtf8Validation
        dsimp only
        rw [hw]
        exact if_pos (by simpa using ok)
      rw [bad] at stop
      cases stop
      exact .inr ⟨1, rfl, fun t => bad _⟩
  · have bad : ∀ t, runUtf8Validation i (first :: t) = .error ⟨i, some 1⟩ := fun t => by
      unfold runUtf8Validation; simp only [hw]
    rw [bad] at stop
    cases stop
    exact .inr ⟨1, rfl, fun t => bad _⟩

/-- The walk over the encodings of some characters goes on after them. -/
theorem runUtf8Validation_flatMap_append (cs : List Char) (i : Nat) (w : List UInt8) :
    runUtf8Validation i (cs.flatMap String.utf8EncodeChar ++ w) =
      runUtf8Validation (i + (cs.flatMap String.utf8EncodeChar).length) w := by
  induction cs generalizing i with
  | nil => rfl
  | cons c cs ih =>
    rw [List.flatMap_cons, List.append_assoc, runUtf8Validation_utf8EncodeChar, ih, List.length_append,
      Nat.add_assoc]

/-- A refusal of `from_utf8` is the walk's. -/
theorem fromUtf8_eq_error {v : List UInt8} {e : Utf8Error} :
    fromUtf8 v = .error e ↔ runUtf8Validation 0 v = .error e := by
  unfold fromUtf8
  split
  · next accepted => simp only [accepted, reduceCtorEq]
  · next refused => simp only [refused, Except.error.injEq]

/-- `from_utf8` hands back the bytes it was given, and only bytes that pass
the walk. -/
theorem fromUtf8_eq_ok {v : List UInt8} {t : RString} : fromUtf8 v = .ok t ↔ t.bytes = v := by
  refine ⟨fun decoded => ?_, fun bytes => bytes ▸ fromUtf8_bytes t⟩
  unfold fromUtf8 at decoded
  split at decoded
  · cases decoded
    rfl
  · cases decoded

/-- **Exactly the strings decode.** `from_utf8` accepts a byte sequence if and
only if it is the UTF-8 encoding of some string. -/
theorem fromUtf8_ok_iff (v : List UInt8) : (∃ t, fromUtf8 v = .ok t) ↔ ∃ s : String, s.toUTF8.data.toList = v := by
  constructor
  · rintro ⟨t, decoded⟩
    rw [fromUtf8_eq_ok] at decoded
    subst decoded
    rcases runUtf8Validation_spec t.bytes 0 with ⟨-, cs, encoded⟩ | ⟨_, _, _, _, _, _, _, refused⟩
    · exact ⟨⟨cs⟩, encoded⟩
    · exact absurd (t.valid.symm.trans refused) (nomatch ·)
  · rintro ⟨s, rfl⟩
    exact ⟨_, fromUtf8_toUTF8 s⟩

/-- **Where a refusal points.** When `from_utf8` refuses bytes, the error's
`valid_up_to` lies inside them; the bytes before it are the UTF-8 encoding of
a string, those from it on start with no character's encoding, and
`error_len` is `None` or one to three bytes. So the index `receive_message`
prints is the first byte of the first bad sequence. -/
theorem fromUtf8_error_position (v : List UInt8) (e : Utf8Error) (refused : fromUtf8 v = .error e) :
    e.validUpTo < v.length ∧ (∃ s : String, s.toUTF8.data.toList = v.take e.validUpTo) ∧
      (¬∃ c rest, v.drop e.validUpTo = String.utf8EncodeChar c ++ rest) ∧ e.errorLen ∈ errorLens := by
  have walk := fromUtf8_eq_error.mp refused
  rcases runUtf8Validation_spec v 0 with ⟨accepted, -⟩ | ⟨cs, w, l, mem, rfl, nonempty, noChar, stop⟩
  · exact absurd (accepted.symm.trans walk) (nomatch ·)
  rw [walk, Nat.zero_add] at stop
  cases stop
  refine ⟨?_, ⟨⟨cs⟩, by rw [List.take_left]; rfl⟩, by simpa using noChar, mem⟩
  rw [List.length_append]
  exact Nat.lt_add_of_pos_right (List.length_pos.mpr nonempty)

/-- `a`, then the lead byte of a two-byte character, then `(`, which does not
continue it. -/
def badContinuation : List UInt8 := [0x61, 0xC3, 0x28]

theorem fromUtf8_error_position_badContinuation :
    fromUtf8 badContinuation = .error ⟨1, some 1⟩ ∧
      (1 < badContinuation.length ∧ (∃ s : String, s.toUTF8.data.toList = badContinuation.take 1) ∧
        (¬∃ c rest, badContinuation.drop 1 = String.utf8EncodeChar c ++ rest) ∧ some 1 ∈ errorLens) :=
  have refused : fromUtf8 badContinuation = .error ⟨1, some 1⟩ := by decide
  ⟨refused, fromUtf8_error_position badContinuation ⟨1, some 1⟩ refused⟩

/-- **When `error_len` is `None`.** A refusal of `from_utf8` has no error
length exactly when the bytes from `valid_up_to` on are the start of some
character's encoding, cut short by the end of the input. Then
`receive_message` prints "incomplete utf-8 byte sequence from index ..."; in
every other refusal a byte that is there already continues no character, so
the same error stands whatever bytes follow, and it prints "invalid utf-8
sequence of ... bytes from index ...". -/
theorem fromUtf8_incomplete_iff (v : List UInt8) (e : Utf8Error) (refused : fromUtf8 v = .error e) :
    (e.errorLen = none ↔ ∃ c, v.drop e.validUpTo <+: String.utf8EncodeChar c) ∧
      (e.errorLen ≠ none → ∀ t, fromUtf8 (v ++ t) = .error e) := by
  have walk := fromUtf8_eq_error.mp refused
  rcases runUtf8Validation_spec v 0 with ⟨accepted, -⟩ | ⟨cs, w, l, -, rfl, nonempty, -, stop⟩
  · exact absurd (accepted.symm.trans walk) (nomatch ·)
  rw [walk, Nat.zero_add] at stop
  cases stop
  obtain ⟨first, more, rfl⟩ := List.exists_cons_of_ne_nil nonempty
  rw [runUtf8Validation_flatMap_append, Nat.zero_add] at walk
  rw [List.drop_left]
  rcases runUtf8Validation_stop walk with ⟨cut, prefixed⟩ | ⟨k, rfl, bad⟩
  · exact ⟨⟨fun _ => prefixed, fun _ => cut⟩, (absurd cut ·)⟩
  · refine ⟨⟨(nomatch ·), fun ⟨c, t, whole⟩ => ?_⟩, fun _ t => ?_⟩
    · have read := bad t
      rw [whole, ← List.append_nil (String.utf8EncodeChar c), runUtf8Validation_utf8EncodeChar,
        runUtf8Validation] at read
      cases read
    · rw [fromUtf8_eq_error, List.append_assoc, runUtf8Validation_flatMap_append, Nat.zero_add]
      exact bad t

/-- `a` and the first byte of `é`, cut off. -/
def cutAcute : List UInt8 := [0x61, 0xC3]

theorem fromUtf8_incomplete_iff_cutAcute :
    fromUtf8 cutAcute = .error ⟨1, none⟩ ∧
      (((⟨1, none⟩ : Utf8Error).errorLen = none ↔ ∃ c, cutAcute.drop 1 <+: String.utf8EncodeChar c) ∧
        ((⟨1, none⟩ : Utf8Error).errorLen ≠ none → ∀ t, fromUtf8 (cutAcute ++ t) = .error ⟨1, none⟩)) :=
  have refused : fromUtf8 cutAcute = .error ⟨1, none⟩ := by decide
  ⟨refused, fromUtf8_incomplete_iff cutAcute ⟨1, none⟩ refused⟩

end Paperd.Utf8
