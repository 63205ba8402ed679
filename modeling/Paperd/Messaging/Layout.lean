/-
# Frames and their memory layout

The records a frame is made of, as `messaging.rs` declares them under
`#[repr(C)]`, and their bytes: `msgsnd` copies the first `size_of::<Data>()`
bytes of `Data` onto the queue, and `msgrcv` copies the bytes it delivers over
the start of the receiver's `Data`, leaving the rest of that buffer as it was.
Multi-byte fields are little-endian, since both ends share one host; the
offsets are those of the wire table, followed by one byte of tail padding.
-/

import Mathlib.Algebra.Group.Nat.Basic
import Mathlib.Data.List.GetD
import Paperd.Sysv
import Paperd.Utf8

namespace Paperd.Messaging

open Paperd.Sysv

/-- `MESSAGE_TYPE`: the `m_type` of every frame, the class `msgrcv` asks for. -/
def MESSAGE_TYPE : BitVec 64 := 0x7654

/-- `MESSAGE_LENGTH`: the payload capacity of one frame. -/
def MESSAGE_LENGTH : Nat := 100

/-- `Data`: the reply queue (`-1` for none), the sender's pid, the application
message type, the payload length with the final-frame flag in bit 7, and the
payload buffer, always `MESSAGE_LENGTH` bytes long. -/
@[ext] structure Data where
  responseChan : BitVec 32
  responsePid : UInt32
  messageType : BitVec 16
  messageLength : UInt8
  message : List UInt8
  message_size : message.length = MESSAGE_LENGTH
  deriving DecidableEq

/-- `Message`: the `mtype` that `msgsnd` and `msgrcv` read and write, then the
frame's `Data`. -/
structure Message where
  mType : BitVec 64
  data : Data
  deriving DecidableEq

/-- `size_of::<Data>()`: `4 + 4 + 2 + 1 + 100` bytes, rounded up to the 4-byte
alignment of the `i32` field. -/
def sizeOfData : Nat := 112

/-- The `n` low bytes of `v`, least significant first. -/
def leBytes : Nat → Nat → List UInt8
  | 0, _ => []
  | n + 1, v => (v % 256).toUInt8 :: leBytes n (v / 256)

/-- The number whose little-endian bytes these are. -/
def leValue : List UInt8 → Nat
  | [] => 0
  | b :: bs => b.toNat + 256 * leValue bs

@[simp] theorem length_leBytes (n v : Nat) : (leBytes n v).length = n := by
  induction n generalizing v with
  | zero => rfl
  | succ n ih => simp [leBytes, ih]

theorem leValue_leBytes (n v : Nat) : leValue (leBytes n v) = v % 256 ^ n := by
  induction n generalizing v with
  | zero => simp [leBytes, leValue, Nat.mod_one]
  | succ n ih =>
    have byte : ((v % 256).toUInt8).toNat = v % 256 :=
      Nat.mod_eq_of_lt (Nat.mod_lt _ (by decide))
    rw [leBytes, leValue, ih, byte, pow_succ', Nat.mod_mul]

/-- The number a list of bytes holds fits in that many bytes. -/
theorem leValue_lt : ∀ bs : List UInt8, leValue bs < 256 ^ bs.length
  | [] => Nat.one_pos
  | b :: bs => by
    have rest := leValue_lt bs
    have byte := b.toNat_lt_size
    rw [leValue, List.length_cons, pow_succ']
    simp only [UInt8.size] at byte
    omega

/-- Bytes read as a little-endian number and written back out are the same
bytes. -/
theorem leBytes_leValue : ∀ bs : List UInt8, leBytes bs.length (leValue bs) = bs
  | [] => rfl
  | b :: bs => by
    have byte := b.toNat_lt_size
    simp only [UInt8.size] at byte
    have low : (b.toNat + 256 * leValue bs) % 256 = b.toNat := by omega
    have high : (b.toNat + 256 * leValue bs) / 256 = leValue bs := by omega
    rw [List.length_cons, leBytes, leValue, low, high, leBytes_leValue bs]
    exact congrArg (· :: bs) (UInt8.toNat.inj (Nat.mod_eq_of_lt b.toNat_lt_size))

namespace Data

/-- The bytes of `Data` as `msgsnd` reads them: each field at its offset, then
the padding byte, which nothing reads (written `0` here). -/
def toBytes (d : Data) : List UInt8 :=
  leBytes 4 d.responseChan.toNat ++ leBytes 4 d.responsePid.toNat ++
    leBytes 2 d.messageType.toNat ++ d.messageLength :: d.message ++ [0]

/-- The `Data` that a buffer's bytes hold. -/
def ofBytes (b : List UInt8) : Data where
  responseChan := BitVec.ofNat 32 (leValue (b.take 4))
  responsePid := (leValue ((b.drop 4).take 4)).toUInt32
  messageType := BitVec.ofNat 16 (leValue ((b.drop 8).take 2))
  messageLength := b.getD 10 0
  message := (List.range MESSAGE_LENGTH).map fun i => b.getD (11 + i) 0
  message_size := by rw [List.length_map, List.length_range]

@[simp] theorem ofBytes_responseChan (b : List UInt8) :
    (ofBytes b).responseChan = BitVec.ofNat 32 (leValue (b.take 4)) := rfl

@[simp] theorem ofBytes_responsePid (b : List UInt8) :
    (ofBytes b).responsePid = (leValue ((b.drop 4).take 4)).toUInt32 := rfl

@[simp] theorem ofBytes_messageType (b : List UInt8) :
    (ofBytes b).messageType = BitVec.ofNat 16 (leValue ((b.drop 8).take 2)) := rfl

@[simp] theorem ofBytes_messageLength (b : List UInt8) :
    (ofBytes b).messageLength = b.getD 10 0 := rfl

@[simp] theorem ofBytes_message (b : List UInt8) :
    (ofBytes b).message = (List.range MESSAGE_LENGTH).map fun i => b.getD (11 + i) 0 := rfl

/-- The payload bytes a frame declares, `message[..len]` with
`len = message_length & 0x7F`, as far as the buffer holds them. -/
def payload (d : Data) : List UInt8 := d.message.take (d.messageLength &&& 0x7F).toNat

/-- What `msgrcv` leaves in a buffer that held `d` after delivering `text`:
the delivered bytes over the start of `Data`, the old bytes after them. -/
def overlay (d : Data) (text : List UInt8) : Data :=
  ofBytes (text ++ d.toBytes.drop text.length)

@[simp] theorem length_toBytes (d : Data) : d.toBytes.length = sizeOfData := by
  simp [toBytes, d.message_size, MESSAGE_LENGTH, sizeOfData]

private theorem map_range_getD_append (header payload tail : List UInt8) {n : Nat}
    (size : payload.length = n) :
    (List.range n).map (fun i => (header ++ (payload ++ tail)).getD (header.length + i) 0) =
      payload := by
  subst size
  apply List.ext_getElem (by rw [List.length_map, List.length_range])
  intro i _ inPayload
  rw [List.getElem_map, List.getElem_range, List.getD_append_right _ _ _ _ (by omega), Nat.add_sub_cancel_left,
    List.getD_append _ _ _ _ inPayload, List.getD_eq_getElem]

private theorem length_header (d : Data) :
    (leBytes 4 d.responseChan.toNat ++ leBytes 4 d.responsePid.toNat ++
      leBytes 2 d.messageType.toNat).length = 10 := by
  simp

theorem toBytes_getD_length (d : Data) : d.toBytes.getD 10 0 = d.messageLength := by
  have := d.message_size
  rw [toBytes, List.getD_append _ _ _ _ (by simp [length_header]; omega),
    List.getD_append_right _ _ _ _ (by rw [length_header]), length_header]
  rfl

theorem toBytes_getD_message (d : Data) (i : Nat) (h : i < MESSAGE_LENGTH) :
    d.toBytes.getD (11 + i) 0 = d.message.getD i 0 := by
  have := d.message_size
  rw [toBytes, List.getD_append _ _ _ _ (by simp [length_header]; omega),
    List.getD_append_right _ _ _ _ (by rw [length_header]; omega), length_header,
    show 11 + i - 10 = i + 1 by omega]
  rfl

/-- The layout reads back every field it wrote. -/
@[simp] theorem ofBytes_toBytes (d : Data) : ofBytes d.toBytes = d := by
  have reassoc : d.toBytes = leBytes 4 d.responseChan.toNat ++ (leBytes 4 d.responsePid.toNat ++
      (leBytes 2 d.messageType.toNat ++ (d.messageLength :: (d.message ++ [0])))) := by
    simp only [toBytes, List.append_assoc, List.cons_append]
  have payloadBytes := map_range_getD_append (leBytes 4 d.responseChan.toNat ++
    leBytes 4 d.responsePid.toNat ++ leBytes 2 d.messageType.toNat ++ [d.messageLength])
    d.message [0] d.message_size
  simp only [List.length_append, length_leBytes, List.length_singleton, List.append_assoc,
    List.singleton_append, ← reassoc] at payloadBytes
  ext1
  · rw [ofBytes_responseChan, reassoc, List.take_left' (length_leBytes 4 _), leValue_leBytes,
      Nat.mod_eq_of_lt (show d.responseChan.toNat < 256 ^ 4 from d.responseChan.isLt)]
    simp
  · rw [ofBytes_responsePid, reassoc, List.drop_left' (length_leBytes 4 _), List.take_left' (length_leBytes 4 _),
      leValue_leBytes, Nat.mod_eq_of_lt (show d.responsePid.toNat < 256 ^ 4 from d.responsePid.toNat_lt_size)]
    exact UInt32.toNat.inj (UInt32.toNat_ofNat_of_lt d.responsePid.toNat_lt_size)
  · rw [ofBytes_messageType, reassoc, show 8 = 4 + 4 from rfl, ← List.drop_drop, List.drop_left' (length_leBytes 4 _),
      List.drop_left' (length_leBytes 4 _), List.take_left' (length_leBytes 2 _), leValue_leBytes,
      Nat.mod_eq_of_lt (show d.messageType.toNat < 256 ^ 2 from d.messageType.isLt)]
    simp
  · rw [ofBytes_messageLength, toBytes_getD_length]
  · rw [ofBytes_message, payloadBytes]

/-- A full delivery replaces the whole buffer. -/
@[simp] theorem overlay_toBytes (d e : Data) : d.overlay e.toBytes = e := by
  rw [overlay, length_toBytes, List.drop_of_length_le (by simp), List.append_nil, ofBytes_toBytes]

private theorem split_bytes_at (l : List UInt8) {n : Nat} (long : n ≤ l.length) :
    ∃ x y, l = x ++ y ∧ x.length = n :=
  ⟨l.take n, l.drop n, (List.take_append_drop n l).symm, List.length_take_of_le long⟩

/-- Every buffer of `size_of::<Data>()` bytes whose padding byte is `0` is the
layout of some `Data`. -/
theorem exists_toBytes (a : List UInt8) (sized : a.length = sizeOfData - 1) :
    ∃ d : Data, d.toBytes = a ++ [0] := by
  obtain ⟨chan, a, rfl, chanSize⟩ := @split_bytes_at a 4 (by simp [sized, sizeOfData])
  obtain ⟨pid, a, rfl, pidSize⟩ := @split_bytes_at a 4 (by simp [sizeOfData] at sized; omega)
  obtain ⟨type, a, rfl, typeSize⟩ := @split_bytes_at a 2 (by simp [sizeOfData] at sized; omega)
  obtain ⟨len, message, rfl⟩ := @List.exists_cons_of_ne_nil _ a (by
    rintro rfl; simp [sizeOfData] at sized; omega)
  have messageSize : message.length = MESSAGE_LENGTH := by
    simp [sizeOfData] at sized; simp [MESSAGE_LENGTH]; omega
  have chanBytes := leBytes_leValue chan
  have pidBytes := leBytes_leValue pid
  have typeBytes := leBytes_leValue type
  have chanFits := leValue_lt chan
  have pidFits := leValue_lt pid
  have typeFits := leValue_lt type
  rw [chanSize] at chanBytes chanFits
  rw [pidSize] at pidBytes pidFits
  rw [typeSize] at typeBytes typeFits
  refine ⟨⟨BitVec.ofNat 32 (leValue chan), (leValue pid).toUInt32, BitVec.ofNat 16 (leValue type), len, message,
    messageSize⟩, ?_⟩
  simp only [toBytes, BitVec.toNat_ofNat, Nat.mod_eq_of_lt (show leValue chan < 2 ^ 32 by omega),
    Nat.mod_eq_of_lt (show leValue type < 2 ^ 16 by omega),
    UInt32.toNat_ofNat_of_lt (show leValue pid < UInt32.size by simp [UInt32.size]; omega), chanBytes, pidBytes,
    typeBytes, List.append_assoc, List.cons_append]

/-- `Data` is read from the bytes before the padding byte only. -/
theorem ofBytes_take (b : List UInt8) : ofBytes (b.take (sizeOfData - 1)) = ofBytes b := by
  have within : ∀ i, i < sizeOfData - 1 → (b.take (sizeOfData - 1)).getD i 0 = b.getD i 0 := fun i small => by
    rw [List.getD_eq_getElem?_getD, List.getElem?_take, if_pos small, ← List.getD_eq_getElem?_getD]
  ext1
  · simp [List.take_take, sizeOfData]
  · simp [List.drop_take, List.take_take, sizeOfData]
  · simp [List.drop_take, List.take_take, sizeOfData]
  · exact within 10 (by decide)
  · refine List.map_congr_left fun i mem => within _ ?_
    rw [List.mem_range] at mem
    simp only [MESSAGE_LENGTH, sizeOfData] at mem ⊢
    omega

/-- Reading a buffer as `Data` and laying that out again gives back every byte
of the buffer but the last, and a zero for it, exactly when the buffer has
`size_of::<Data>()` bytes. The zero is this model's choice: Rust leaves the
padding byte's value open. -/
theorem toBytes_ofBytes_iff (b : List UInt8) :
    (ofBytes b).toBytes = b.dropLast ++ [0] ↔ b.length = sizeOfData := by
  constructor
  · intro back
    have lengths := congrArg List.length back
    simp only [length_toBytes, List.length_append, List.length_dropLast, List.length_singleton] at lengths
    simp only [sizeOfData] at lengths ⊢
    omega
  · intro sized
    have front : b.take (sizeOfData - 1) = b.dropLast := by rw [List.dropLast_eq_take, sized]
    obtain ⟨d, laid⟩ := exists_toBytes b.dropLast (by rw [List.length_dropLast, sized])
    have padded : (d.toBytes).take (sizeOfData - 1) = b.dropLast := by
      rw [laid, List.take_left' (by rw [List.length_dropLast, sized])]
    have read : ofBytes b = d := by rw [← ofBytes_take, front, ← padded, ofBytes_take, ofBytes_toBytes]
    rw [read, laid]

/-- Laid out again, a buffer read as `Data` keeps every byte before the
padding byte exactly when it has `size_of::<Data>()` bytes. -/
theorem toBytes_ofBytes_dropLast_iff (b : List UInt8) :
    (ofBytes b).toBytes.dropLast = b.dropLast ↔ b.length = sizeOfData := by
  refine ⟨fun back => ?_, fun sized => by rw [(toBytes_ofBytes_iff b).mpr sized, List.dropLast_concat]⟩
  have lengths := congrArg List.length back
  simp only [List.length_dropLast, length_toBytes, sizeOfData] at lengths ⊢
  omega

/-- **The layout is a bijection up to the padding byte.** Laying a `Data` out
and reading it back gives the same `Data`; reading a buffer and laying it out
again gives back every byte but the padding byte exactly when the buffer has
`size_of::<Data>()` bytes. -/
theorem layout_round_trip :
    (∀ d : Data, ofBytes d.toBytes = d) ∧
      ∀ b : List UInt8, (ofBytes b).toBytes.dropLast = b.dropLast ↔ b.length = sizeOfData :=
  ⟨ofBytes_toBytes, toBytes_ofBytes_dropLast_iff⟩

/-- Byte `j` of the buffer after a delivery: the delivered byte where there is
one, the byte that was there before elsewhere. -/
theorem getD_overlayBytes (old text : List UInt8) (j : Nat) :
    (text ++ old.drop text.length).getD j 0 = if j < text.length then text.getD j 0 else old.getD j 0 := by
  split
  · exact List.getD_append _ _ _ _ ‹_›
  · rw [List.getD_append_right _ _ _ _ (by omega)]
    simp only [List.getD_eq_getElem?_getD, List.getElem?_drop]
    congr 2
    omega

/-- After a delivery of `text`, the length byte is the delivered one when `text`
reaches offset 10, and the one left in the buffer otherwise. -/
theorem overlay_messageLength (d : Data) (text : List UInt8) :
    (d.overlay text).messageLength =
      if 10 < text.length then text.getD 10 0 else d.messageLength := by
  rw [overlay, ofBytes_messageLength, getD_overlayBytes, toBytes_getD_length]

/-- After a delivery of `text`, payload byte `i` is the delivered byte at
offset `11 + i` when `text` reaches it, and the byte left in the buffer
otherwise. -/
theorem overlay_message_getD (d : Data) (text : List UInt8) (i : Nat) (h : i < MESSAGE_LENGTH) :
    (d.overlay text).message.getD i 0 =
      if 11 + i < text.length then text.getD (11 + i) 0 else d.message.getD i 0 := by
  rw [overlay, ofBytes_message, List.getD_eq_getElem _ _ (by simpa using h), List.getElem_map,
    List.getElem_range, getD_overlayBytes,
    toBytes_getD_message d i h]

end Data

/-- The queued form of a frame: its type and the `size_of::<Data>()` bytes
`msgsnd` reads. -/
def Message.toQueued (m : Message) : QueuedMessage := ⟨m.mType, m.data.toBytes⟩

/-- A length below 128 and the final-frame flag share the length byte without
touching each other. -/
theorem length_flag_bits (len : Nat) (small : len < 128) :
    ((len.toUInt8 ||| 0x80) &&& 0x7F).toNat = len ∧ (len.toUInt8 ||| 0x80) &&& 0x80 = 0x80 ∧
      (len.toUInt8 &&& 0x7F).toNat = len ∧ len.toUInt8 &&& 0x80 ≠ 0x80 := by
  revert len
  decide

end Paperd.Messaging
