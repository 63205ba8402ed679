/-
# Receiving a paged reply

`ResponseChannel::receive_message` and `close`. The reassembly loop receives
frames of type `MESSAGE_TYPE` into one `Message` it reuses, appends
`message[..len]` of each to a buffer, `len` being the low seven bits of the
length byte, and stops after a frame with bit 7 set; the buffer is then decoded
as UTF-8 and parsed, first as the caller's type and then as the server's error
envelope.

Nothing in the loop looks at how many bytes `msgrcv` delivered, nor checks
`len` against the array: a short frame leaves bytes of an earlier one in the
buffer, and a `len` above `MESSAGE_LENGTH` makes the slice panic. What one pass
appends is stated once, for every buffer and every delivery
(`appendFrame_overlay`). Over a queue of whole frames the loop is the
reassembly machine of `Paperd.Messaging.Reassembly` fed those frames
(`receiveLoop_feeds`, the one induction over the loop); what well-formed frames
yield then follows from the machine alone (`receiveLoop_frames`).
-/

import Paperd.Messaging.Send
import Paperd.Messaging.Reassembly

namespace Paperd.Messaging

open Paperd.Sysv Paperd.Utf8

/-- `ServerErrorMessage`: the `{"error": ...}` envelope of a server's refusal. -/
structure ServerErrorMessage where
  error : String

/-- The buffer `receive_message` starts from: type `MESSAGE_TYPE`, every field
of `Data` zero. -/
def zeroedMessage : Message :=
  ⟨MESSAGE_TYPE, ⟨0, 0, 0, 0, List.replicate MESSAGE_LENGTH 0, List.length_replicate _ _⟩⟩

/-- `MASK`: the final-frame flag, bit 7 of the length byte. -/
def MASK : UInt8 := 0x80

/-- The body of the reassembly loop once `msgrcv` has filled `message`:
`is_done`, and `buffer` extended by `message[..len]` with
`len = message_length & 0x7F`; a `len` past the 100-byte array panics, as
Rust's slice check does. -/
def appendFrame (message : Message) (buffer : List UInt8) : Except String (Bool × List UInt8) :=
  let isDone := message.data.messageLength &&& MASK == MASK
  let len := (message.data.messageLength &&& 0x7F).toNat
  if len ≤ MESSAGE_LENGTH then .ok (isDone, buffer ++ message.data.message.take len)
  else .error s!"range end index {len} out of range for slice of length {MESSAGE_LENGTH}"

/-- The loop of `receive_message`, from the buffer `message` and the bytes
gathered so far: receive a frame, stop with `Err(1)` when `msgrcv` fails, and
go on until a frame is flagged final. Each delivery takes a frame off the
queue, which bounds the loop. -/
def receiveLoop (self : ResponseChannel) (message : Message) (buffer : List UInt8) (w : World) :
    Exit (Except (BitVec 32) (List UInt8)) × World :=
  match _delivery : Libc.msgrcv self.responseChan message sizeOfData MESSAGE_TYPE w with
  | none => (.blocks, w)
  | some (res, message, w₁) =>
    if _failed : res = -1 then
      let chan := self.responseChan.toInt
      let msg := w₁.errno.desc
      (.returns (.error 1), w₁.eprintln s!"Failed to receive message from channel: {chan}: {msg}")
    else
      match appendFrame message buffer with
      | .error p => (.panics p, w₁)
      | .ok (true, buffer) => (.returns (.ok buffer), w₁)
      | .ok (false, buffer) => receiveLoop self message buffer w₁
termination_by w.kernel.waiting self.responseChan
decreasing_by exact Libc.waiting_msgrcv _delivery _failed

/-- What `receive_message::<R>` does with the reassembled bytes: `from_utf8`,
then `serde_json::from_str::<R>`; when that fails, the server's error envelope
is printed if the text is one, else the first parse error. -/
def decodeResponse {R : Type} (parse : RString → Except String R)
    (parseError : RString → Except String ServerErrorMessage) (buffer : List UInt8) (w : World) :
    Except (BitVec 32) R × World :=
  match fromUtf8 buffer with
  | .error e => (.error 1, w.eprintln s!"Failed to decode response from server: {e}")
  | .ok text =>
    match parse text with
    | .ok r => (.ok r, w)
    | .error e =>
      match parseError text with
      | .ok message => (.error 1, w.eprintln message.error)
      | .error _ => (.error 1, w.eprintln s!"Failed to parse response from server: {e}")

/-- `receive_message::<R>`: the loop from a zeroed buffer, then the decoding. -/
def receiveMessage {R : Type} (parse : RString → Except String R)
    (parseError : RString → Except String ServerErrorMessage) (self : ResponseChannel)
    (w : World) : Exit (Except (BitVec 32) R) × World :=
  match receiveLoop self zeroedMessage [] w with
  | (.returns (.ok buffer), w) =>
    let (r, w) := decodeResponse parse parseError buffer w
    (.returns r, w)
  | (.returns (.error e), w) => (.returns (.error e), w)
  | (.panics p, w) => (.panics p, w)
  | (.blocks, w) => (.blocks, w)

/-- `close`: remove the queue with `msgctl(IPC_RMID)`. -/
def close (self : ResponseChannel) (w : World) : Except (BitVec 32) Unit × World :=
  let (res, w) := Libc.msgctl self.responseChan Libc.IPC_RMID w
  if res = -1 then
    let chan := self.responseChan.toInt
    let msg := w.errno.desc
    (.error 1, w.eprintln s!"Failed to cleanup message channel: {chan}: {msg}")
  else (.ok (), w)

/-- Decoding only writes to standard error. -/
theorem decodeResponse_stderr {R : Type} (parse : RString → Except String R)
    (parseError : RString → Except String ServerErrorMessage) (buffer : List UInt8) (w : World) :
    ∃ lines, (decodeResponse parse parseError buffer w).2 = { w with stderr := w.stderr ++ lines } := by
  unfold decodeResponse
  split
  · exact ⟨_, rfl⟩
  · split
    · exact ⟨[], by rw [List.append_nil]⟩
    · split <;> exact ⟨_, rfl⟩

@[simp] theorem decodeResponse_kernel {R : Type} (parse : RString → Except String R)
    (parseError : RString → Except String ServerErrorMessage) (buffer : List UInt8) (w : World) :
    (decodeResponse parse parseError buffer w).2.kernel = w.kernel := by
  obtain ⟨_, decoded⟩ := decodeResponse_stderr parse parseError buffer w
  rw [decoded]

@[simp] theorem decodeResponse_faults {R : Type} (parse : RString → Except String R)
    (parseError : RString → Except String ServerErrorMessage) (buffer : List UInt8) (w : World) :
    (decodeResponse parse parseError buffer w).2.faults = w.faults := by
  obtain ⟨_, decoded⟩ := decodeResponse_stderr parse parseError buffer w
  rw [decoded]

/-! ### One pass of the loop -/

/-- The loop unrolled once at a delivery. -/
theorem receiveLoop_of_delivered {self : ResponseChannel} {message message' : Message}
    {buffer : List UInt8} {w w₁ : World} {res : BitVec 64}
    (h : Libc.msgrcv self.responseChan message sizeOfData MESSAGE_TYPE w = some (res, message', w₁))
    (delivered : res ≠ -1) :
    receiveLoop self message buffer w =
      match appendFrame message' buffer with
      | .error p => (.panics p, w₁)
      | .ok (true, buffer) => (.returns (.ok buffer), w₁)
      | .ok (false, buffer) => receiveLoop self message' buffer w₁ := by
  rw [receiveLoop]
  split
  · next none => rw [h] at none; cases none
  · next res' message'' w' some =>
    rw [h, Option.some.injEq, Prod.mk.injEq, Prod.mk.injEq] at some
    obtain ⟨rfl, rfl, rfl⟩ := some
    rw [dif_neg delivered]

/-- The loop unrolled once at a failed `msgrcv`: `Err(1)` and one line on
standard error. -/
theorem receiveLoop_of_failed {self : ResponseChannel} {message message' : Message}
    {buffer : List UInt8} {w w₁ : World}
    (h : Libc.msgrcv self.responseChan message sizeOfData MESSAGE_TYPE w = some (-1, message', w₁)) :
    ∃ line, receiveLoop self message buffer w = (.returns (.error 1), w₁.eprintln line) := by
  rw [receiveLoop]
  split
  · next none => rw [h] at none; cases none
  · next res' message'' w' some =>
    rw [h, Option.some.injEq, Prod.mk.injEq, Prod.mk.injEq] at some
    obtain ⟨rfl, rfl, rfl⟩ := some
    rw [dif_pos rfl]
    exact ⟨_, rfl⟩

/-- The first `len` payload bytes of the buffer after a delivery of `text`:
the delivered byte at offset `11 + i` where `text` reaches it, the byte the
buffer held before elsewhere. -/
theorem take_overlay_message (d : Data) (text : List UInt8) {len : Nat} (small : len ≤ MESSAGE_LENGTH) :
    (d.overlay text).message.take len = (List.range len).map fun i =>
      if 11 + i < text.length then text.getD (11 + i) 0 else d.message.getD i 0 := by
  have size := (d.overlay text).message_size
  apply List.ext_getElem (by simp only [List.length_take, List.length_map, List.length_range]; omega)
  intro i _ inRange
  rw [List.length_map, List.length_range] at inRange
  rw [List.getElem_take, List.getElem_map, List.getElem_range, ← List.getD_eq_getElem _ 0,
    Data.overlay_message_getD d text i (by omega)]

/-- One pass of the loop after `msgrcv` delivered `text` over a buffer that
held `d`: the flag and the length are read from the delivered length byte when
`text` reaches it, from the old one otherwise, and each appended byte likewise. -/
theorem appendFrame_overlay (mType : BitVec 64) (d : Data) (text buffer : List UInt8) :
    appendFrame ⟨mType, d.overlay text⟩ buffer =
      let lengthByte := if 10 < text.length then text.getD 10 0 else d.messageLength
      let len := (lengthByte &&& 0x7F).toNat
      if len ≤ MESSAGE_LENGTH then
        .ok (lengthByte &&& MASK == MASK, buffer ++ (List.range len).map fun i =>
          if 11 + i < text.length then text.getD (11 + i) 0 else d.message.getD i 0)
      else .error s!"range end index {len} out of range for slice of length {MESSAGE_LENGTH}" := by
  simp only [appendFrame, Data.overlay_messageLength]
  generalize (if 10 < text.length then text.getD 10 0 else d.messageLength) = lengthByte
  by_cases small : (lengthByte &&& 0x7F).toNat ≤ MESSAGE_LENGTH
  · rw [if_pos small, if_pos small, take_overlay_message d text small]
  · rw [if_neg small, if_neg small]

/-- A frame whose declared length fits appends its own payload. -/
theorem appendFrame_of_le (message : Message) (buffer : List UInt8)
    (small : (message.data.messageLength &&& 0x7F).toNat ≤ MESSAGE_LENGTH) :
    appendFrame message buffer =
      .ok (message.data.messageLength &&& MASK == MASK, buffer ++ message.data.payload) := by
  simp only [appendFrame, if_pos small, Data.payload]

/-- Receiving on `replyWorld` delivers the first text over the buffer and
leaves the others. -/
theorem msgrcv_replyWorld (text : List UInt8) (texts : List (List UInt8)) (msgp : Message)
    (fits : text.length ≤ sizeOfData) :
    Libc.msgrcv 0 msgp sizeOfData MESSAGE_TYPE (replyWorld (text :: texts)) =
      some (BitVec.ofNat 64 text.length, ⟨MESSAGE_TYPE, msgp.data.overlay text⟩, replyWorld texts) := by
  rw [@Libc.msgrcv_of_first 0 msgp sizeOfData MESSAGE_TYPE (replyWorld (text :: texts))
    ⟨1, (text :: texts).map (⟨MESSAGE_TYPE, ·⟩)⟩ [] (texts.map (⟨MESSAGE_TYPE, ·⟩)) ⟨MESSAGE_TYPE, text⟩
    rfl rfl rfl (by simp) rfl fits]
  congr

/-- **One iteration.** Whatever the buffer held and whatever the queue
delivered, a pass that gets a frame appends the first `len` bytes of the
payload array as the delivery left it: a byte the delivery did not reach is
the one an earlier frame (or the zeroed start) left there, and a `len` above
`MESSAGE_LENGTH`, which the seven bits allow up to 127, panics. -/
theorem receive_iteration_appends {self : ResponseChannel} {message message' : Message}
    {buffer : List UInt8} {w w₁ : World} {res : BitVec 64}
    (h : Libc.msgrcv self.responseChan message sizeOfData MESSAGE_TYPE w = some (res, message', w₁))
    (delivered : res ≠ -1) :
    ∃ qm k, w.kernel.msgrcv self.responseChan sizeOfData MESSAGE_TYPE = .message qm k ∧
      qm.mText.length ≤ sizeOfData ∧ res = BitVec.ofNat 64 qm.mText.length ∧
      let text := qm.mText
      let lengthByte := if 10 < text.length then text.getD 10 0 else message.data.messageLength
      let len := (lengthByte &&& 0x7F).toNat
      appendFrame message' buffer =
        if len ≤ MESSAGE_LENGTH then
          .ok (lengthByte &&& MASK == MASK, buffer ++ (List.range len).map fun i =>
            if 11 + i < text.length then text.getD (11 + i) 0 else message.data.message.getD i 0)
        else .error s!"range end index {len} out of range for slice of length {MESSAGE_LENGTH}" := by
  obtain ⟨qm, k, -, taken, rfl, rfl, -⟩ := Libc.msgrcv_delivered h delivered
  obtain ⟨-, -, -, fits, -⟩ := Kernel.msgrcv_eq_message taken
  exact ⟨qm, k, taken, fits, rfl, appendFrame_overlay _ _ _ _⟩

/-- One iteration on a reply queue holding an 11-byte frame that declares 127
payload bytes. -/
theorem receive_iteration_appends_overlong :
    ∃ qm k, (replyWorld [List.replicate 10 0 ++ [0xFF]]).kernel.msgrcv 0 sizeOfData MESSAGE_TYPE = .message qm k ∧
      qm.mText.length ≤ sizeOfData ∧ BitVec.ofNat 64 11 = BitVec.ofNat 64 qm.mText.length ∧
      let text := qm.mText
      let lengthByte := if 10 < text.length then text.getD 10 0 else zeroedMessage.data.messageLength
      let len := (lengthByte &&& 0x7F).toNat
      appendFrame ⟨MESSAGE_TYPE, zeroedMessage.data.overlay (List.replicate 10 0 ++ [0xFF])⟩ [] =
        if len ≤ MESSAGE_LENGTH then
          .ok (lengthByte &&& MASK == MASK, [] ++ (List.range len).map fun i =>
            if 11 + i < text.length then text.getD (11 + i) 0 else zeroedMessage.data.message.getD i 0)
        else .error s!"range end index {len} out of range for slice of length {MESSAGE_LENGTH}" :=
  @receive_iteration_appends ⟨0⟩ zeroedMessage _ [] (replyWorld [List.replicate 10 0 ++ [0xFF]]) (replyWorld [])
    (BitVec.ofNat 64 11) (msgrcv_replyWorld _ [] zeroedMessage (by decide)) (by decide)

/-- The loop trusts what it receives. A full frame built by
`send_paged_message` with 100 bytes `A`, then an 11-byte final frame that
declares 5 payload bytes and carries none, reassemble to 105 bytes `A`: the
last 5 are left over from the first frame. A lone frame declaring 127 bytes
panics. -/
theorem receiveLoop_trusts_frames :
    (receiveLoop ⟨0⟩ zeroedMessage [] (replyWorld
        [(pagedMessage 1 0 (-1) (List.replicate 100 65) (by decide) false).data.toBytes,
          List.replicate 10 0 ++ [0x85]])).1 =
      .returns (.ok (List.replicate 105 65)) ∧
    (receiveLoop ⟨0⟩ zeroedMessage [] (replyWorld [List.replicate 10 0 ++ [0xFF]])).1 =
      .panics "range end index 127 out of range for slice of length 100" := by
  constructor
  · rw [receiveLoop_of_delivered (msgrcv_replyWorld _ _ _ (by simp)) (by decide), Data.overlay_toBytes,
      appendFrame_of_le _ _ (by decide)]
    have notFinal : ((pagedMessage 1 0 (-1) (List.replicate 100 65) (by decide) false).data.messageLength
        &&& MASK == MASK) = false := by decide
    simp only [notFinal]
    rw [receiveLoop_of_delivered (msgrcv_replyWorld _ _ _ (by decide)) (by decide), appendFrame_overlay]
    decide
  · rw [receiveLoop_of_delivered (msgrcv_replyWorld _ _ _ (by decide)) (by decide), appendFrame_overlay]
    decide

/-! ### The loop refines the reassembly machine -/

/-- A full frame on the queue arrives whole: the delivery overwrites the whole
buffer with it. -/
theorem msgrcv_frame_of_first {c : BitVec 32} {message f : Message} {w : World} {q : MsgQueue}
    {other rest : List QueuedMessage} (noFault : w.faults = []) (found : w.kernel.find? c = some q)
    (layout : q.messages = other ++ f.toQueued :: rest) (skipped : ∀ o ∈ other, o.mType ≠ MESSAGE_TYPE)
    (typed : f.mType = MESSAGE_TYPE) :
    Libc.msgrcv c message sizeOfData MESSAGE_TYPE w =
      some (BitVec.ofNat 64 sizeOfData, f, { w with kernel := w.kernel.setMessages c (other ++ rest) }) := by
  rw [Libc.msgrcv_of_first noFault found layout skipped typed (by simp [Message.toQueued])]
  simp [Message.toQueued]

/-- With no verdict against it, `msgrcv` on a queue that holds no frame waits. -/
theorem msgrcv_without_frames {c : BitVec 32} {message : Message} {w : World} {q : MsgQueue}
    (noFault : w.faults = []) (found : w.kernel.find? c = some q)
    (noFrame : ∀ m ∈ q.messages, m.mType ≠ MESSAGE_TYPE) :
    Libc.msgrcv c message sizeOfData MESSAGE_TYPE w = none := by
  have firstNone : q.messages.find? (·.mType == MESSAGE_TYPE) = none :=
    List.find?_eq_none.mpr (by simpa using noFrame)
  simp [Libc.msgrcv, World.nextFault_nil w noFault, Kernel.msgrcv, found, firstNone]

/-- When `msgrcv` waits, so does the loop. -/
theorem receiveLoop_of_waits {self : ResponseChannel} {message : Message} {buffer : List UInt8} {w : World}
    (waits : Libc.msgrcv self.responseChan message sizeOfData MESSAGE_TYPE w = none) :
    receiveLoop self message buffer w = (.blocks, w) := by
  rw [receiveLoop]
  split
  · rfl
  · next delivered => rw [waits] at delivered; cases delivered

/-- A frame as the daemon queues it: the whole of its `Data`, of type
`MESSAGE_TYPE`. -/
def frameOf (d : Data) : QueuedMessage := Message.toQueued ⟨MESSAGE_TYPE, d⟩

/-- How the loop ends in each state of the machine: a machine still
collecting waits for frames. -/
def Reassembly.exit : Reassembly → Exit (Except (BitVec 32) (List UInt8))
  | .collecting _ => .blocks
  | .done bytes => .returns (.ok bytes)
  | .overlong len => .panics s!"range end index {len} out of range for slice of length {MESSAGE_LENGTH}"

/-- The loop feeds the frames on the queue to the machine, one delivery per
frame, with no verdict against its calls: where the machine stops the loop
ends as `exit` says, the frames after it left on the queue; where it still
collects, the loop goes on from the last frame delivered and the bytes
gathered. -/
theorem receiveLoop_feeds (self : ResponseChannel) {other later : List QueuedMessage}
    (skipped : ∀ o ∈ other, o.mType ≠ MESSAGE_TYPE) :
    ∀ (frames : List Data) (message : Message) (buffer : List UInt8) (w : World) (q : MsgQueue),
      w.faults = [] → w.kernel.find? self.responseChan = some q →
      q.messages = other ++ frames.map frameOf ++ later →
      receiveLoop self message buffer w =
        match Reassembly.run (.collecting buffer) frames with
        | (.collecting bytes, _) =>
          receiveLoop self ((frames.getLast?.map (Message.mk MESSAGE_TYPE)).getD message) bytes
            { w with kernel := w.kernel.setMessages self.responseChan (other ++ later) }
        | (s, rest) =>
          (s.exit, { w with kernel := w.kernel.setMessages self.responseChan (other ++ rest.map frameOf ++ later) })
  | [], message, buffer, w, q, _, found, layout => by
    have unchanged := Kernel.setMessages_of_find? found
    rw [layout, List.map_nil, List.append_nil] at unchanged
    simp only [Reassembly.run_nil, List.getLast?_nil, Option.map_none', Option.getD_none, unchanged]
  | d :: ds, message, buffer, w, q, noFault, found, layout => by
    have onQueue : q.messages = other ++ Message.toQueued ⟨MESSAGE_TYPE, d⟩ :: (ds.map frameOf ++ later) := by
      simp [layout, frameOf]
    rw [receiveLoop_of_delivered (msgrcv_frame_of_first noFault found onQueue skipped rfl) (by decide),
      Reassembly.run_collecting_cons, Reassembly.step]
    by_cases fits : Reassembly.declared d ≤ MESSAGE_LENGTH
    · rw [appendFrame_of_le ⟨MESSAGE_TYPE, d⟩ buffer fits, if_pos fits]
      cases fin : Reassembly.final d
      · have notDone : (d.messageLength &&& MASK == MASK) = false := fin
        rw [if_neg (by simp), notDone]
        dsimp only
        rw [@receiveLoop_feeds self other later skipped ds ⟨MESSAGE_TYPE, d⟩ (buffer ++ d.payload)
          { w with kernel := w.kernel.setMessages self.responseChan (other ++ (ds.map frameOf ++ later)) }
          { q with messages := other ++ (ds.map frameOf ++ later) } noFault (by simp [found]) (by simp)]
        simp only [Kernel.setMessages_setMessages, List.getLast?_cons]
        cases ds.getLast? <;> rfl
      · have isDone : (d.messageLength &&& MASK == MASK) = true := fin
        simp [isDone, Reassembly.exit]
    · have overlong : ¬(d.messageLength &&& 0x7F).toNat ≤ MESSAGE_LENGTH := fits
      simp only [appendFrame, if_neg overlong, if_neg fits, Reassembly.run_overlong, List.append_assoc]
      rfl

/-- **The loop refines the reassembly machine.** On a reply queue holding,
behind messages of other types, whole frames of type `MESSAGE_TYPE`, and with
no signal or error against its calls, the loop ends as the machine fed those
frames does, whenever the machine stops within them or nothing else of the
type follows them: it returns the bytes the machine gathered, or panics where
the machine met a length past the array, with the frames after that one left
on the queue; or, when the machine is still collecting after the last frame,
it waits for good, the frames gone from the queue. -/
theorem receiveLoop_refines_reassembly (self : ResponseChannel) {other later : List QueuedMessage}
    (skipped : ∀ o ∈ other, o.mType ≠ MESSAGE_TYPE) (frames : List Data) (message : Message)
    (buffer : List UInt8) {w : World} {q : MsgQueue} (noFault : w.faults = [])
    (found : w.kernel.find? self.responseChan = some q) (layout : q.messages = other ++ frames.map frameOf ++ later)
    (ends : (Reassembly.run (.collecting buffer) frames).1.stopped = true ∨ ∀ o ∈ later, o.mType ≠ MESSAGE_TYPE) :
    receiveLoop self message buffer w =
      ((Reassembly.run (.collecting buffer) frames).1.exit,
        { w with
          kernel := w.kernel.setMessages self.responseChan
            (other ++ (Reassembly.run (.collecting buffer) frames).2.map frameOf ++ later) }) := by
  rw [receiveLoop_feeds self skipped frames message buffer w q noFault found layout]
  split
  · next bytes rest ran =>
    have collects : (Reassembly.run (.collecting buffer) frames).1.stopped = false := by
      rw [ran]; rfl
    have untyped : ∀ o ∈ later, o.mType ≠ MESSAGE_TYPE := ends.resolve_left (by rw [collects]; decide)
    have taken := Reassembly.run_snd_of_collecting _ _ collects
    rw [ran] at taken ⊢
    cases taken
    simp only [Reassembly.exit, List.map_nil, List.append_nil]
    have emptied : ({ w with kernel := w.kernel.setMessages self.responseChan (other ++ later) } : World).kernel.find?
        self.responseChan = some { q with messages := other ++ later } := by simp [found]
    refine receiveLoop_of_waits (@msgrcv_without_frames self.responseChan _
      { w with kernel := w.kernel.setMessages self.responseChan (other ++ later) } _ noFault emptied fun m mem => ?_)
    rcases List.mem_append.mp mem with inOther | inLater
    · exact skipped m inOther
    · exact untyped m inLater
  · next s rest _ ran => rw [ran]

/-- A reply of 101 bytes as the daemon pages it: a full page, not final, then
a final page of one byte. -/
def twoPageReply : List Data := (pagedFrames 2 0 (-1) (List.replicate 101 0x41)).map (·.data)

/-- The reply queue of pid 1 holds the two frames of a reply, then a frame of
the next one: the machine stops at the final frame, the loop returns the 101
bytes, and the next reply's frame stays on the queue. -/
theorem receiveLoop_refines_reassembly_two_pages :
    (Reassembly.run (.collecting []) twoPageReply).1 = .done (List.replicate 101 0x41) ∧
    receiveLoop ⟨0⟩ zeroedMessage [] (replyWorld ((twoPageReply ++ [zeroedMessage.data]).map Data.toBytes)) =
      ((Reassembly.run (.collecting []) twoPageReply).1.exit,
        { replyWorld ((twoPageReply ++ [zeroedMessage.data]).map Data.toBytes) with
          kernel := (replyWorld ((twoPageReply ++ [zeroedMessage.data]).map Data.toBytes)).kernel.setMessages 0
            ([] ++ (Reassembly.run (.collecting []) twoPageReply).2.map frameOf ++ [frameOf zeroedMessage.data]) }) :=
  have done : (Reassembly.run (.collecting []) twoPageReply).1 = .done (List.replicate 101 0x41) := by decide
  ⟨done, @receiveLoop_refines_reassembly ⟨0⟩ [] [frameOf zeroedMessage.data] (by simp) twoPageReply zeroedMessage []
    (replyWorld ((twoPageReply ++ [zeroedMessage.data]).map Data.toBytes))
    ⟨1, ((twoPageReply ++ [zeroedMessage.data]).map Data.toBytes).map (⟨MESSAGE_TYPE, ·⟩)⟩ rfl rfl
    (by simp [frameOf, Message.toQueued]) (.inl (by rw [done]; rfl))⟩

/-- **Reassembly.** Behind messages of other types, a queue holding complete
frames of type `MESSAGE_TYPE` whose lengths fit, only the last one flagged
final, is read by the loop to exactly its last frame: the buffer gains their
payloads in order, and what follows them stays on the queue. -/
theorem receiveLoop_frames (self : ResponseChannel) {other later : List QueuedMessage}
    (skipped : ∀ o ∈ other, o.mType ≠ MESSAGE_TYPE) (frames : List Message) (message : Message)
    (buffer : List UInt8) (w : World) (q : MsgQueue) (nonempty : frames ≠ [])
    (wellFormed : ∀ f ∈ frames, f.mType = MESSAGE_TYPE ∧ (f.data.messageLength &&& 0x7F).toNat ≤ MESSAGE_LENGTH)
    (flagged : ∀ i (h : i < frames.length), frames[i].data.messageLength &&& MASK = MASK ↔ i + 1 = frames.length)
    (noFault : w.faults = []) (found : w.kernel.find? self.responseChan = some q)
    (layout : q.messages = other ++ frames.map Message.toQueued ++ later) :
    receiveLoop self message buffer w =
      (.returns (.ok (buffer ++ (frames.map (·.data.payload)).flatten)),
        { w with kernel := w.kernel.setMessages self.responseChan (other ++ later) }) := by
  have typed : frames.map Message.toQueued = (frames.map (·.data)).map frameOf := by
    rw [List.map_map]
    exact List.map_congr_left fun f mem => by simp [frameOf, Message.toQueued, (wellFormed f mem).1]
  have ran := Reassembly.run_frames buffer [] (frames.map (·.data)) (by simpa using nonempty)
    (fun d mem => by
      obtain ⟨f, inFrames, rfl⟩ := List.mem_map.mp mem
      exact (wellFormed f inFrames).2)
    (fun i h => by simpa [Reassembly.final, MASK] using flagged i (by simpa using h))
  rw [List.append_nil] at ran
  rw [receiveLoop_feeds self skipped _ message buffer w q noFault found (by rw [layout, typed]), ran]
  simp [Reassembly.exit, Function.comp_def]

/-! ### Waiting, failing and closing -/

/-- **No timeout.** On a reply queue that holds no frame, and with no signal or
error against the call, the loop waits in `msgrcv` for good. -/
theorem receiveLoop_blocks_without_frames (self : ResponseChannel) (message : Message)
    (buffer : List UInt8) {w : World} {q : MsgQueue} (noFault : w.faults = [])
    (found : w.kernel.find? self.responseChan = some q) (noFrame : ∀ m ∈ q.messages, m.mType ≠ MESSAGE_TYPE) :
    receiveLoop self message buffer w = (.blocks, w) :=
  receiveLoop_of_waits (msgrcv_without_frames noFault found noFrame)

/-- On a reply queue that is gone the loop stops at once with `Err(1)`, one
line on standard error naming the queue and `EINVAL`'s text, and nothing else
changed. -/
theorem receiveLoop_of_removed (self : ResponseChannel) (message : Message) (buffer : List UInt8)
    {w : World} (noFault : w.faults = []) (gone : w.kernel.find? self.responseChan = none) :
    receiveLoop self message buffer w =
      (.returns (.error 1),
        let chan := self.responseChan.toInt
        let msg := Errno.EINVAL.desc
        { w with errno := .EINVAL }.eprintln s!"Failed to receive message from channel: {chan}: {msg}") := by
  have failed : Libc.msgrcv self.responseChan message sizeOfData MESSAGE_TYPE w =
      some (-1, message, { w with errno := .EINVAL }) := by
    simp [Libc.msgrcv, World.nextFault_nil w noFault, Kernel.msgrcv, gone]
  rw [receiveLoop]
  split
  · next waits => rw [failed] at waits; cases waits
  · next res message' w₁ delivered =>
    rw [failed, Option.some.injEq, Prod.mk.injEq, Prod.mk.injEq] at delivered
    obtain ⟨rfl, rfl, rfl⟩ := delivered
    rfl

/-- `close` removes a reply queue that is there, with whatever it still
holds. The kernel model has no permissions: on Linux `IPC_RMID` by a process
that neither owns nor created the queue fails with `EPERM` instead. -/
theorem close_of_live (self : ResponseChannel) {w : World} (noFault : w.faults = [])
    (live : (w.kernel.find? self.responseChan).isSome) :
    close self w = (.ok (), { w with kernel := w.kernel.remove self.responseChan }) := by
  have present : self.responseChan ∈ w.kernel.ids := (Kernel.mem_ids_iff _ _).mpr live
  simp [close, Libc.msgctl, Libc.call, World.nextFault_nil w noFault, Kernel.rmid, present, Except.map]

/-- Close once: closing a channel that `close` has removed fails with
`Err(1)` and reports `EINVAL`. -/
theorem close_twice (self : ResponseChannel) {w : World} (noFault : w.faults = [])
    (live : (w.kernel.find? self.responseChan).isSome) :
    close self w = (.ok (), { w with kernel := w.kernel.remove self.responseChan }) ∧
    close self { w with kernel := w.kernel.remove self.responseChan } =
      (.error 1,
        let chan := self.responseChan.toInt
        let msg := Errno.EINVAL.desc
        { w with kernel := w.kernel.remove self.responseChan, errno := .EINVAL }.eprintln
          s!"Failed to cleanup message channel: {chan}: {msg}") := by
  have absent : self.responseChan ∉ (w.kernel.remove self.responseChan).ids := by
    simp [Kernel.mem_ids_iff]
  refine ⟨close_of_live self noFault live, ?_⟩
  simp [close, Libc.msgctl, Libc.call, World.nextFault, noFault, Kernel.rmid, absent, Except.map]

end Paperd.Messaging
