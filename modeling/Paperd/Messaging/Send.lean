/-
# Sending a paged message

`MessageChannel::send_message` and `send_paged_message`: the optional reply
queue keyed by the sender's pid, the serialized payload, and the paging loop
that cuts the payload into frames of at most `MESSAGE_LENGTH` bytes, the last
one flagged in bit 7 of its length byte.

What the loop puts on the queue is described in closed form by `pagedFrames`:
frame `i` of `⌈n / 100⌉` carries bytes `100 i` to `100 i + 99`. The loop is
shown to append exactly those frames whenever it finishes, and whatever way
it ends it never removes a queue.
-/

import Paperd.Messaging.Libc

namespace Paperd.Messaging

open Paperd.Sysv Paperd.Utf8

/-- `MessageHandler`: what a payload type tells `send_message`, its
`type_id()` and `expect_response()`. -/
structure MessageHandler where
  typeId : BitVec 16
  expectResponse : Bool

/-- `MessageChannel`: the daemon's queue. -/
structure MessageChannel where
  msqId : BitVec 32
  deriving DecidableEq

/-- `ResponseChannel`: the private queue a reply comes back on. -/
structure ResponseChannel where
  responseChan : BitVec 32
  deriving DecidableEq

/-- How a call ends: it returns, it panics with Rust's message, or it waits
for ever, in `msgsnd` on a full queue or in `msgrcv` for a frame that never
comes, nothing else running. -/
inductive Exit (α : Type) where
  | returns (value : α)
  | panics (message : String)
  | blocks
  deriving DecidableEq

/-- The frame `send_paged_message` builds: `m_type` is `MESSAGE_TYPE`, the
payload `msg` is copied into the zeroed buffer, and the length byte is
`msg.len() as u8`, with bit 7 set when `fin`. -/
def pagedMessage (pid : UInt32) (typeId : BitVec 16) (receiveChan : BitVec 32)
    (msg : List UInt8) (fits : msg.length ≤ MESSAGE_LENGTH) (fin : Bool) : Message :=
  let len := msg.length.toUInt8
  { mType := MESSAGE_TYPE
    data :=
      { responseChan := receiveChan
        responsePid := pid
        messageType := typeId
        messageLength := if fin then len ||| 0x80 else len
        message := msg ++ List.replicate (MESSAGE_LENGTH - msg.length) 0
        message_size := by simp only [List.length_append, List.length_replicate]; omega } }

@[simp] theorem pagedMessage_mType (pid : UInt32) (typeId : BitVec 16) (receiveChan : BitVec 32)
    (msg : List UInt8) (fits : msg.length ≤ MESSAGE_LENGTH) (fin : Bool) :
    (pagedMessage pid typeId receiveChan msg fits fin).mType = MESSAGE_TYPE := rfl

@[simp] theorem pagedMessage_messageLength (pid : UInt32) (typeId : BitVec 16) (receiveChan : BitVec 32)
    (msg : List UInt8) (fits : msg.length ≤ MESSAGE_LENGTH) (fin : Bool) :
    (pagedMessage pid typeId receiveChan msg fits fin).data.messageLength =
      if fin then msg.length.toUInt8 ||| 0x80 else msg.length.toUInt8 := rfl

/-- `msgsnd` takes the frames' type, which is positive. -/
theorem one_le_MESSAGE_TYPE : 1 ≤ MESSAGE_TYPE.toInt := by decide

/-- `send_paged_message`: one frame, handed to `msgsnd` with
`size_of::<Data>()` bytes; `msgsnd`'s `0` or `-1`, or `none` while it waits. -/
def sendPagedMessage (self : MessageChannel) (typeId : BitVec 16) (receiveChan : BitVec 32)
    (msg : List UInt8) (fits : msg.length ≤ MESSAGE_LENGTH) (fin : Bool) (w : World) :
    Option (BitVec 32 × World) :=
  Libc.msgsnd self.msqId (pagedMessage w.pid typeId receiveChan msg fits fin) sizeOfData w

/-- The paging loop of `send_message`: while bytes remain, send the next
`min(len, MESSAGE_LENGTH)` of them, final when they are the last, and stop with
`Err(1)` at the first `msgsnd` that fails; a `msgsnd` on a full queue waits. -/
def sendLoop (self : MessageChannel) (typeId : BitVec 16) (receiveChan : BitVec 32)
    (data : List UInt8) (w : World) : Exit (Except (BitVec 32) Unit) × World :=
  if data.length > 0 then
    let size := min data.length MESSAGE_LENGTH
    match sendPagedMessage self typeId receiveChan (data.take size)
      ((List.length_take_le _ _).trans (min_le_right _ _)) (size == data.length) w with
    | none => (.blocks, w)
    | some (ret, w) =>
      if ret = -1 then
        let msqId := self.msqId.toInt
        let desc := w.errno.desc
        (.returns (.error 1), w.eprintln s!"Failed to send message to channel: {msqId}: {desc}")
      else sendLoop self typeId receiveChan (data.drop size) w
  else (.returns (.ok ()), w)
termination_by data.length
decreasing_by
  simp only [List.length_drop]
  unfold MESSAGE_LENGTH at *
  omega

/-- `create_receive_channel`: the queue keyed by the process's own pid
(`pid as key_t`), created if absent. -/
def createReceiveChannel (w : World) : Except (BitVec 32) (BitVec 32) × World :=
  let (msqid, w) := Libc.msgget w.pid.toBitVec (0o666 ||| Libc.IPC_CREAT) w
  if msqid = -1 then
    let shown := msqid.toInt
    let desc := w.errno.desc
    (.error 1, w.eprintln s!"Failed to open message channel: {shown}: {desc}")
  else (.ok msqid, w)

/-- `send_message`: open the reply queue when one is expected (`-1` stands for
none), serialize the payload (`serde_json::to_string`, its text or its error's),
page it out, and hand back the reply queue. -/
def sendMessage (self : MessageChannel) (handler : MessageHandler)
    (message : Except String RString) (w : World) :
    Exit (Except (BitVec 32) (Option ResponseChannel)) × World :=
  let expResp := handler.expectResponse
  let (receiveChan, w) := if expResp then createReceiveChannel w else (.ok (-1), w)
  match receiveChan with
  | .error e => (.returns (.error e), w)
  | .ok receiveChan =>
    match message with
    | .error e => (.returns (.error 1), w.eprintln s!"Failed to serialize JSON: {e}")
    | .ok msg =>
      match sendLoop self handler.typeId receiveChan msg.bytes w with
      | (.returns (.error e), w) => (.returns (.error e), w)
      | (.returns (.ok ()), w) =>
        if expResp then (.returns (.ok (some ⟨receiveChan⟩)), w) else (.returns (.ok none), w)
      | (.panics p, w) => (.panics p, w)
      | (.blocks, w) => (.blocks, w)

/-! ### The frames in closed form -/

/-- How many frames carry `data`: `⌈len / MESSAGE_LENGTH⌉`. -/
def pageCount (data : List UInt8) : Nat := (data.length + MESSAGE_LENGTH - 1) / MESSAGE_LENGTH

/-- The payload of frame `i`: at most `MESSAGE_LENGTH` bytes from
`MESSAGE_LENGTH * i` on. -/
def page (data : List UInt8) (i : Nat) : List UInt8 :=
  (data.drop (MESSAGE_LENGTH * i)).take MESSAGE_LENGTH

theorem length_page_le (data : List UInt8) (i : Nat) : (page data i).length ≤ MESSAGE_LENGTH :=
  List.length_take_le _ _

/-- The frames that carry `data`, in order, only the last one final. -/
def pagedFrames (pid : UInt32) (typeId : BitVec 16) (receiveChan : BitVec 32)
    (data : List UInt8) : List Message :=
  (List.range (pageCount data)).map fun i =>
    pagedMessage pid typeId receiveChan (page data i) (length_page_le data i)
      (i + 1 == pageCount data)

/-- Peeling the first frame: what is left after `min(len, MESSAGE_LENGTH)` bytes
needs one frame fewer. -/
theorem pageCount_drop {data : List UInt8} (nonempty : data.length > 0) :
    pageCount (data.drop (min data.length MESSAGE_LENGTH)) + 1 = pageCount data := by
  simp only [pageCount, List.length_drop, MESSAGE_LENGTH]
  omega

theorem page_zero (data : List UInt8) :
    page data 0 = data.take (min data.length MESSAGE_LENGTH) := by
  rw [page, Nat.mul_zero, List.drop_zero, List.take_eq_take]
  omega

theorem page_succ (data : List UInt8) (i : Nat) :
    page data (i + 1) = page (data.drop (min data.length MESSAGE_LENGTH)) i := by
  unfold page
  by_cases full : MESSAGE_LENGTH ≤ data.length
  · rw [Nat.min_eq_right full, List.drop_drop, Nat.mul_succ, Nat.add_comm]
  · have past : data.drop (MESSAGE_LENGTH * (i + 1)) = [] :=
      List.drop_eq_nil_of_le (by unfold MESSAGE_LENGTH at *; omega)
    have pastRest : data.drop (min data.length MESSAGE_LENGTH + MESSAGE_LENGTH * i) = [] :=
      List.drop_eq_nil_of_le (by omega)
    rw [List.drop_drop, past, pastRest]

/-- The closed form unrolled once, the way the loop runs. -/
theorem pagedFrames_of_pos (pid : UInt32) (typeId : BitVec 16) (receiveChan : BitVec 32)
    {data : List UInt8} (nonempty : data.length > 0) :
    pagedFrames pid typeId receiveChan data =
      pagedMessage pid typeId receiveChan (data.take (min data.length MESSAGE_LENGTH))
          ((List.length_take_le _ _).trans (min_le_right _ _))
          (min data.length MESSAGE_LENGTH == data.length) ::
        pagedFrames pid typeId receiveChan (data.drop (min data.length MESSAGE_LENGTH)) := by
  have count := pageCount_drop nonempty
  unfold pagedFrames
  rw [← count, List.range_succ_eq_map, List.map_cons, List.map_map]
  congr 1
  · have last : (0 + 1 == pageCount (data.drop (min data.length MESSAGE_LENGTH)) + 1) =
        (min data.length MESSAGE_LENGTH == data.length) := by
      rw [Bool.eq_iff_iff, beq_iff_eq, beq_iff_eq]
      simp only [pageCount, List.length_drop, MESSAGE_LENGTH]
      omega
    simp only [page_zero, last]
  · refine List.map_congr_left fun i _ => ?_
    have notLast : (i + 1 + 1 == pageCount (data.drop (min data.length MESSAGE_LENGTH)) + 1) =
        (i + 1 == pageCount (data.drop (min data.length MESSAGE_LENGTH))) := by
      rw [Bool.eq_iff_iff, beq_iff_eq, beq_iff_eq]
      omega
    simp only [Function.comp, page_succ, Nat.succ_eq_add_one, notLast]

@[simp] theorem length_pagedFrames (pid : UInt32) (typeId : BitVec 16) (receiveChan : BitVec 32)
    (data : List UInt8) : (pagedFrames pid typeId receiveChan data).length = pageCount data := by
  simp [pagedFrames]

/-- No bytes, no frames. -/
@[simp] theorem pagedFrames_nil (pid : UInt32) (typeId : BitVec 16) (receiveChan : BitVec 32) :
    pagedFrames pid typeId receiveChan [] = [] := rfl

theorem getElem_pagedFrames (pid : UInt32) (typeId : BitVec 16) (receiveChan : BitVec 32)
    (data : List UInt8) (i : Nat) (h : i < (pagedFrames pid typeId receiveChan data).length) :
    (pagedFrames pid typeId receiveChan data)[i] =
      pagedMessage pid typeId receiveChan (page data i) (length_page_le data i)
        (i + 1 == pageCount data) := by
  simp [pagedFrames]

/-- The low seven bits of a frame's length byte are the length of the payload
it was built from, below the flag. -/
@[simp] theorem declaredLength_pagedMessage (pid : UInt32) (typeId : BitVec 16) (receiveChan : BitVec 32)
    (msg : List UInt8) (fits : msg.length ≤ MESSAGE_LENGTH) (fin : Bool) :
    ((pagedMessage pid typeId receiveChan msg fits fin).data.messageLength &&& 0x7F).toNat = msg.length := by
  have bits := length_flag_bits msg.length (by unfold MESSAGE_LENGTH at fits; omega)
  cases fin
  · exact bits.2.2.1
  · exact bits.1

/-- A frame declares exactly the payload it was built from. -/
@[simp] theorem payload_pagedMessage (pid : UInt32) (typeId : BitVec 16) (receiveChan : BitVec 32)
    (msg : List UInt8) (fits : msg.length ≤ MESSAGE_LENGTH) (fin : Bool) :
    (pagedMessage pid typeId receiveChan msg fits fin).data.payload = msg := by
  rw [Data.payload, declaredLength_pagedMessage]
  exact List.take_left msg _

/-- Bit 7 of a frame's length byte is set exactly when it was built final. -/
theorem final_pagedMessage (pid : UInt32) (typeId : BitVec 16) (receiveChan : BitVec 32)
    (msg : List UInt8) (fits : msg.length ≤ MESSAGE_LENGTH) (fin : Bool) :
    (pagedMessage pid typeId receiveChan msg fits fin).data.messageLength &&& 0x80 = 0x80 ↔
      fin = true := by
  have bits := length_flag_bits msg.length (by unfold MESSAGE_LENGTH at fits; omega)
  cases fin
  · simpa [pagedMessage] using bits.2.2.2
  · simpa [pagedMessage] using bits.2.1

/-- The first `k` pages are the first `MESSAGE_LENGTH * k` bytes. -/
theorem flatten_pages_take (data : List UInt8) (k : Nat) :
    ((List.range k).map (page data)).flatten = data.take (MESSAGE_LENGTH * k) := by
  induction k with
  | zero => simp
  | succ k ih => rw [List.range_succ, List.map_append, List.flatten_append, ih, Nat.mul_succ,
      List.take_add]; simp [page]

/-- The pages, in order, are the data. -/
theorem flatten_pages (data : List UInt8) :
    ((List.range (pageCount data)).map (page data)).flatten = data := by
  rw [flatten_pages_take, List.take_of_length_le]
  simp only [pageCount, MESSAGE_LENGTH]
  omega

/-- Every page but the last is full. -/
theorem length_page_of_lt {data : List UInt8} {i : Nat} (notLast : i + 1 < pageCount data) :
    (page data i).length = MESSAGE_LENGTH := by
  simp only [pageCount, MESSAGE_LENGTH] at notLast
  simp only [page, List.length_take, List.length_drop, MESSAGE_LENGTH]
  omega

/-- How the frames that carry `s` are laid out: `⌈|s| / MESSAGE_LENGTH⌉` of
them, each full but the last, their payloads in order making up `s`, the
payload's length in the low seven bits of each length byte and the final flag
on the last frame only, and one header for all. -/
structure Framing (pid : UInt32) (typeId : BitVec 16) (receiveChan : BitVec 32) (s : List UInt8)
    (frames : List Message) : Prop where
  count : frames.length = (s.length + MESSAGE_LENGTH - 1) / MESSAGE_LENGTH
  full : ∀ i (h : i + 1 < frames.length), frames[i].data.payload.length = MESSAGE_LENGTH
  payloads : (frames.map (·.data.payload)).flatten = s
  lengthByte : ∀ i (h : i < frames.length), frames[i].data.messageLength =
    if i + 1 = frames.length then frames[i].data.payload.length.toUInt8 ||| 0x80
    else frames[i].data.payload.length.toUInt8
  declared : ∀ f ∈ frames, (f.data.messageLength &&& 0x7F).toNat = f.data.payload.length
  final : ∀ i (h : i < frames.length), frames[i].data.messageLength &&& 0x80 = 0x80 ↔ i + 1 = frames.length
  header : ∀ f ∈ frames, f.mType = MESSAGE_TYPE ∧ f.data.messageType = typeId ∧
    f.data.responseChan = receiveChan ∧ f.data.responsePid = pid

/-- `pagedFrames` is laid out as `Framing` says. -/
theorem pagedFrames_framing (pid : UInt32) (typeId : BitVec 16) (receiveChan : BitVec 32)
    (s : List UInt8) : Framing pid typeId receiveChan s (pagedFrames pid typeId receiveChan s) where
  count := length_pagedFrames pid typeId receiveChan s
  full i h := by
    rw [getElem_pagedFrames, payload_pagedMessage]
    exact length_page_of_lt (by simpa using h)
  payloads := by
    simp only [pagedFrames, List.map_map, Function.comp_def, payload_pagedMessage]
    exact flatten_pages s
  lengthByte i h := by
    simp only [getElem_pagedFrames, pagedMessage_messageLength, payload_pagedMessage,
      length_pagedFrames, beq_iff_eq]
  declared f mem := by
    obtain ⟨i, -, rfl⟩ := List.mem_map.mp mem
    rw [declaredLength_pagedMessage, payload_pagedMessage]
  final i h := by
    rw [getElem_pagedFrames, final_pagedMessage, length_pagedFrames, beq_iff_eq]
  header f mem := by
    obtain ⟨i, -, rfl⟩ := List.mem_map.mp mem
    exact ⟨rfl, rfl, rfl, rfl⟩

/-! ### What the loop does -/

/-- `w'` is `w` with `ms` at the back of the queue under `msqid`, and every
other queue as it was. -/
def Appended (msqid : BitVec 32) (ms : List QueuedMessage) (w w' : World) : Prop :=
  ∀ a, w'.kernel.find? a = if a = msqid then (w.kernel.find? a).map (·.push ms) else w.kernel.find? a

/-- Room on a queue for `n` more frames: their `size_of::<Data>()` bytes each
and their number stay within `MSGMNB`. -/
def roomFor (q : MsgQueue) (n : Nat) : Prop :=
  q.cbytes + sizeOfData * n ≤ MSGMNB ∧ q.messages.length + n ≤ MSGMNB

instance (q : MsgQueue) (n : Nat) : Decidable (roomFor q n) := inferInstanceAs (Decidable (_ ∧ _))

/-- Room for one more frame is room for its `msgsnd`. -/
theorem fits_of_roomFor {q : MsgQueue} {n : Nat} (room : roomFor q (n + 1)) : q.fits sizeOfData := by
  unfold roomFor sizeOfData at room
  unfold MsgQueue.fits sizeOfData
  constructor <;> omega

/-- A frame on the queue uses up room for one. -/
theorem roomFor_push {q : MsgQueue} {n : Nat} (room : roomFor q (n + 1)) (f : Message) :
    roomFor (q.push [f.toQueued]) n := by
  unfold roomFor sizeOfData at *
  simp only [MsgQueue.push, MsgQueue.cbytes_push, List.length_append, List.length_singleton, Message.toQueued,
    Data.length_toBytes, sizeOfData]
  constructor <;> omega

theorem roomFor_of_le {q : MsgQueue} {n m : Nat} (le : n ≤ m) (room : roomFor q m) : roomFor q n := by
  unfold roomFor at *
  have : sizeOfData * n ≤ sizeOfData * m := Nat.mul_le_mul_left _ le
  constructor <;> omega

/-- Frames on the queue use up room for as many. -/
theorem roomFor_push_all {q : MsgQueue} {n : Nat} :
    ∀ fs : List Message, roomFor q (fs.length + n) → roomFor (q.push (fs.map Message.toQueued)) n
  | [], room => by simpa using room
  | f :: fs, room => by
    rw [List.map_cons, ← List.singleton_append, ← MsgQueue.push_push]
    exact roomFor_push_all fs (roomFor_push (by rwa [List.length_cons, Nat.add_right_comm] at room) f)

/-- The `send_paged_message` call of the loop's iteration on `data`: the next
`min(len, MESSAGE_LENGTH)` bytes, final when they are the last. -/
def sendNext (self : MessageChannel) (typeId : BitVec 16) (receiveChan : BitVec 32) (data : List UInt8)
    (w : World) : Option (BitVec 32 × World) :=
  sendPagedMessage self typeId receiveChan (data.take (min data.length MESSAGE_LENGTH))
    ((List.length_take_le _ _).trans (min_le_right _ _)) (min data.length MESSAGE_LENGTH == data.length) w

section Unrolling

variable {self : MessageChannel} {typeId : BitVec 16} {receiveChan : BitVec 32} {data : List UInt8}
  {w w₁ : World}

/-! One lemma per way through an iteration of the loop. -/

theorem sendLoop_of_waits (nonempty : data.length > 0) (waits : sendNext self typeId receiveChan data w = none) :
    sendLoop self typeId receiveChan data w = (.blocks, w) := by
  rw [sendLoop, if_pos nonempty]
  simp only [sendNext] at waits
  simp only [waits]

theorem sendLoop_of_failed (nonempty : data.length > 0)
    (failed : sendNext self typeId receiveChan data w = some (-1, w₁)) :
    sendLoop self typeId receiveChan data w =
      (.returns (.error 1), w₁.eprintln s!"Failed to send message to channel: {self.msqId.toInt}: {w₁.errno.desc}") := by
  rw [sendLoop, if_pos nonempty]
  simp only [sendNext] at failed
  simp only [failed, if_true]

theorem sendLoop_of_sent {ret : BitVec 32} (nonempty : data.length > 0)
    (sent : sendNext self typeId receiveChan data w = some (ret, w₁)) (notFailed : ¬ret = -1) :
    sendLoop self typeId receiveChan data w =
      sendLoop self typeId receiveChan (data.drop (min data.length MESSAGE_LENGTH)) w₁ := by
  rw [sendLoop, if_pos nonempty]
  simp only [sendNext] at sent
  simp only [sent, if_neg notFailed]

theorem sendLoop_of_empty (empty : ¬data.length > 0) :
    sendLoop self typeId receiveChan data w = (.returns (.ok ()), w) := by
  rw [sendLoop, if_neg empty]

end Unrolling

/-- A `send_paged_message` that returned and did not fail returned `0`, and
its frame joined the back of the queue, which exists; nothing else but the
verdicts left changed. -/
theorem sendPagedMessage_ok {self : MessageChannel} {typeId : BitVec 16} {receiveChan : BitVec 32}
    {msg : List UInt8} {fits : msg.length ≤ MESSAGE_LENGTH} {fin : Bool} {w w' : World} {ret : BitVec 32}
    (sent : sendPagedMessage self typeId receiveChan msg fits fin w = some (ret, w'))
    (notFailed : ¬ret = -1) :
    Appended self.msqId [(pagedMessage w.pid typeId receiveChan msg fits fin).toQueued] w w' ∧
      w'.pid = w.pid ∧ w'.stderr = w.stderr := by
  unfold sendPagedMessage at sent
  have zero : ret = 0 := Classical.not_not.mp fun nonzero => notFailed (Libc.msgsnd_failed sent nonzero).1
  subst zero
  obtain ⟨-, q, found, rfl⟩ := Libc.msgsnd_eq_zero sent
  refine ⟨fun a => ?_, by simp [World.nextFault_snd], by simp [World.nextFault_snd]⟩
  simp only [World.nextFault_snd, Kernel.find?_setMessages, List.take_of_length_le
    (Nat.le_of_eq (Data.length_toBytes _))]
  by_cases here : a = self.msqId
  · subst here
    simp [found, MsgQueue.push, Message.toQueued]
  · simp [here]

/-- A failed `send_paged_message` changed only `errno` and the verdicts left. -/
theorem sendPagedMessage_failed {self : MessageChannel} {typeId : BitVec 16} {receiveChan : BitVec 32}
    {msg : List UInt8} {fits : msg.length ≤ MESSAGE_LENGTH} {fin : Bool} {w w' : World}
    (failed : sendPagedMessage self typeId receiveChan msg fits fin w = some (-1, w')) :
    ∃ e, w' = { w.nextFault.2 with errno := e } :=
  (Libc.msgsnd_failed failed (by decide)).2

/-- A finished paging loop appended exactly `pagedFrames` to its queue and
touched no other queue, nor the pid or standard error. -/
theorem sendLoop_ok {self : MessageChannel} {typeId : BitVec 16} {receiveChan : BitVec 32}
    {data : List UInt8} {w w' : World}
    (done : sendLoop self typeId receiveChan data w = (.returns (.ok ()), w')) :
    Appended self.msqId ((pagedFrames w.pid typeId receiveChan data).map Message.toQueued) w w' ∧
      w'.pid = w.pid ∧ w'.stderr = w.stderr := by
  induction data, w using sendLoop.induct self typeId receiveChan with
  | case1 data w nonempty _ waits => rw [sendLoop_of_waits nonempty waits] at done; cases done
  | case2 data w nonempty _ w₁ failed => rw [sendLoop_of_failed nonempty failed] at done; cases done
  | case3 data w nonempty _ ret w₁ sent notFailed ih =>
    rw [sendLoop_of_sent nonempty sent notFailed] at done
    obtain ⟨rest, restPid, restStderr⟩ := ih done
    obtain ⟨first, firstPid, firstStderr⟩ := sendPagedMessage_ok sent notFailed
    refine ⟨fun a => ?_, restPid.trans firstPid, restStderr.trans firstStderr⟩
    rw [rest a, first a, firstPid, pagedFrames_of_pos _ _ _ nonempty]
    by_cases here : a = self.msqId
    · simp [here, Option.map_map, Function.comp_def]
    · simp [here]
  | case4 data w empty =>
    rw [sendLoop_of_empty empty] at done
    cases done
    have noData : data = [] := List.eq_nil_of_length_eq_zero (by omega)
    subst noData
    refine ⟨fun a => ?_, rfl, rfl⟩
    split <;> simp [pagedFrames, pageCount, MESSAGE_LENGTH]

/-- A paging loop that failed appended the frames of its first pages to its
queue, short of the frames its remaining bytes need, and touched no other
queue, nor the pid. -/
theorem sendLoop_failed {self : MessageChannel} {typeId : BitVec 16} {receiveChan : BitVec 32}
    {data : List UInt8} {w w' : World} {e : BitVec 32}
    (stopped : sendLoop self typeId receiveChan data w = (.returns (.error e), w')) :
    ∃ sent left, sent ++ pagedFrames w.pid typeId receiveChan left = pagedFrames w.pid typeId receiveChan data ∧
      left ≠ [] ∧ Appended self.msqId (sent.map Message.toQueued) w w' ∧ w'.pid = w.pid := by
  induction data, w using sendLoop.induct self typeId receiveChan with
  | case1 data w nonempty _ waits => rw [sendLoop_of_waits nonempty waits] at stopped; cases stopped
  | case2 data w nonempty _ w₁ failed =>
    rw [sendLoop_of_failed nonempty failed] at stopped
    cases (Prod.mk.inj stopped).2
    obtain ⟨e', rfl⟩ := sendPagedMessage_failed failed
    refine ⟨[], data, rfl, List.ne_nil_of_length_pos nonempty, fun a => ?_,
      by simp [World.eprintln, World.nextFault_snd]⟩
    simp only [World.eprintln, World.nextFault_snd, List.map_nil, MsgQueue.push_nil, Option.map_id']
    split <;> rfl
  | case3 data w nonempty _ ret w₁ sent notFailed ih =>
    rw [sendLoop_of_sent nonempty sent notFailed] at stopped
    obtain ⟨rest, left, split, unsent, later, laterPid⟩ := ih stopped
    obtain ⟨first, firstPid, -⟩ := sendPagedMessage_ok sent notFailed
    rw [firstPid] at split
    rw [pagedFrames_of_pos _ _ _ nonempty, ← split]
    refine ⟨_ :: rest, left, rfl, unsent, fun a => ?_, laterPid.trans firstPid⟩
    rw [later a, first a]
    by_cases here : a = self.msqId
    · simp [here, Option.map_map, Function.comp_def]
    · simp [here]
  | case4 data w empty => rw [sendLoop_of_empty empty] at stopped; cases stopped

/-- With no verdict against its calls, the paging loop leaves none, whatever
way it ends. -/
theorem sendLoop_faults {self : MessageChannel} {typeId : BitVec 16} {receiveChan : BitVec 32}
    {data : List UInt8} {w : World} (noFault : w.faults = []) :
    (sendLoop self typeId receiveChan data w).2.faults = [] := by
  induction data, w using sendLoop.induct self typeId receiveChan with
  | case1 data w nonempty _ waits => rw [sendLoop_of_waits nonempty waits]; exact noFault
  | case2 data w nonempty _ w₁ failed =>
    rw [sendLoop_of_failed nonempty failed]
    obtain ⟨e, rfl⟩ := sendPagedMessage_failed failed
    simp [World.eprintln, World.nextFault_snd, noFault]
  | case3 data w nonempty _ ret w₁ sent notFailed ih =>
    rw [sendLoop_of_sent nonempty sent notFailed]
    have zero : ret = 0 := Classical.not_not.mp fun nonzero => notFailed (Libc.msgsnd_failed sent nonzero).1
    subst zero
    obtain ⟨-, q, -, rfl⟩ := Libc.msgsnd_eq_zero sent
    exact ih (by simp [World.nextFault_snd, noFault])
  | case4 data w empty => rw [sendLoop_of_empty empty]; exact noFault

/-- With no verdict against it, the next frame's `msgsnd` to a live queue
never fails: it puts the frame at the back of the queue when there is room
for a frame, and otherwise waits. -/
theorem sendNext_of_live {self : MessageChannel} {typeId : BitVec 16} {receiveChan : BitVec 32}
    {data : List UInt8} {w : World} {q : MsgQueue} (noFault : w.faults = [])
    (found : w.kernel.find? self.msqId = some q) :
    ∃ f, sendNext self typeId receiveChan data w = if q.fits sizeOfData then
      some (0, { w with kernel := w.kernel.setMessages self.msqId (q.messages ++ [f]) }) else none := by
  unfold sendNext sendPagedMessage
  rw [Libc.msgsnd_of_live noFault found (by rw [pagedMessage_mType]; exact one_le_MESSAGE_TYPE) (by decide),
    List.take_of_length_le (Nat.le_of_eq (Data.length_toBytes _)), Data.length_toBytes]
  exact ⟨_, rfl⟩

/-- With no verdict against it and room on its queue, the next frame is
accepted: its `msgsnd` returns `0`. -/
theorem sendNext_of_room {self : MessageChannel} {typeId : BitVec 16} {receiveChan : BitVec 32}
    {data : List UInt8} {w : World} {q : MsgQueue} (noFault : w.faults = [])
    (found : w.kernel.find? self.msqId = some q) (room : q.fits sizeOfData) :
    ∃ w₁, sendNext self typeId receiveChan data w = some (0, w₁) ∧ w₁.faults = [] :=
  let ⟨_, answer⟩ := @sendNext_of_live self typeId receiveChan data w q noFault found
  ⟨_, answer.trans (if_pos room), noFault⟩

/-- With no verdict against it and room on its queue for every frame, the
paging loop runs to the end. -/
theorem sendLoop_of_room {self : MessageChannel} {typeId : BitVec 16} {receiveChan : BitVec 32}
    {data : List UInt8} {w : World} {q : MsgQueue} (noFault : w.faults = [])
    (found : w.kernel.find? self.msqId = some q) (room : roomFor q (pageCount data)) :
    ∃ w', sendLoop self typeId receiveChan data w = (.returns (.ok ()), w') ∧ w'.faults = [] := by
  induction data, w using sendLoop.induct self typeId receiveChan generalizing q with
  | case1 data w nonempty size =>
    rename_i waits
    rw [← pageCount_drop nonempty] at room
    obtain ⟨w₁, sent, -⟩ := @sendNext_of_room self typeId receiveChan data w q noFault found (fits_of_roomFor room)
    cases sent.symm.trans waits
  | case2 data w nonempty size w₁ =>
    rename_i failed
    rw [← pageCount_drop nonempty] at room
    obtain ⟨w₂, sent, -⟩ := @sendNext_of_room self typeId receiveChan data w q noFault found (fits_of_roomFor room)
    cases sent.symm.trans failed
  | case3 data w nonempty size ret w₁ =>
    rename_i sent notFailed ih
    rw [← pageCount_drop nonempty] at room
    rw [sendLoop_of_sent nonempty sent notFailed]
    obtain ⟨w₂, accepted, noFault₁⟩ :=
      @sendNext_of_room self typeId receiveChan data w q noFault found (fits_of_roomFor room)
    cases accepted.symm.trans sent
    have queued := (sendPagedMessage_ok accepted notFailed).1 self.msqId
    rw [if_pos rfl, found, Option.map_some'] at queued
    exact ih noFault₁ queued (roomFor_push room _)
  | case4 data w empty => exact ⟨w, sendLoop_of_empty empty, noFault⟩

/-- Whatever way the paging loop ends, every queue that was there is still
there: it only appends, and a failure changes no queue. -/
theorem sendLoop_keeps_queues (self : MessageChannel) (typeId : BitVec 16) (receiveChan : BitVec 32)
    (data : List UInt8) (w : World) (a : BitVec 32) :
    ((sendLoop self typeId receiveChan data w).2.kernel.find? a).isSome =
      (w.kernel.find? a).isSome := by
  induction data, w using sendLoop.induct self typeId receiveChan with
  | case1 data w nonempty _ waits => rw [sendLoop_of_waits nonempty waits]
  | case2 data w nonempty _ w₁ failed =>
    rw [sendLoop_of_failed nonempty failed]
    obtain ⟨e, rfl⟩ := sendPagedMessage_failed failed
    simp [World.eprintln, World.nextFault_snd]
  | case3 data w nonempty _ ret w₁ sent notFailed ih =>
    rw [sendLoop_of_sent nonempty sent notFailed, ih, (sendPagedMessage_ok sent notFailed).1 a]
    split <;> simp
  | case4 data w empty => rw [sendLoop_of_empty empty]

/-! ### What `send_message` does -/

/-- A reply queue that `create_receive_channel` hands back is in the table it
leaves, and the pid is unchanged. -/
theorem createReceiveChannel_live {w w₁ : World} {q : BitVec 32}
    (opened : createReceiveChannel w = (.ok q, w₁)) : (w₁.kernel.find? q).isSome ∧ w₁.pid = w.pid := by
  unfold createReceiveChannel Libc.msgget at opened
  rcases Libc.call_cases (·.msgget w.pid.toBitVec ((0o666 ||| Libc.IPC_CREAT) &&& Libc.IPC_CREAT != 0)) w
    with ⟨a, k, -, ok, eq⟩ | ⟨e, eq⟩ <;> rw [eq] at opened
  · dsimp only at opened
    split at opened
    · cases opened
    · cases opened
      exact ⟨(Kernel.msgget_live ok).1, by simp [World.nextFault_snd]⟩
  · cases opened

/-- `create_receive_channel` keeps every queue of the table, whatever it
returns. -/
theorem createReceiveChannel_keeps (w : World) {a : BitVec 32} {mq : MsgQueue} (found : w.kernel.find? a = some mq) :
    (createReceiveChannel w).2.kernel.find? a = some mq := by
  unfold createReceiveChannel Libc.msgget
  rcases Libc.call_cases (·.msgget w.pid.toBitVec ((0o666 ||| Libc.IPC_CREAT) &&& Libc.IPC_CREAT != 0)) w
    with ⟨_, k, -, ok, eq⟩ | ⟨e, eq⟩ <;> rw [eq] <;> dsimp only
  · have kept := (Kernel.msgget_key ok).2 _ _ found
    split <;> simp [World.eprintln, World.nextFault_snd, kept]
  · split <;> simp [World.eprintln, World.nextFault_snd, found]

/-- The reply queue that `create_receive_channel` hands back was created under
the pid, and every queue that was there is still there, as it was. -/
theorem createReceiveChannel_key {w w₁ : World} {q : BitVec 32}
    (opened : createReceiveChannel w = (.ok q, w₁)) :
    (∃ mq, w₁.kernel.find? q = some mq ∧ mq.key = w.pid.toBitVec) ∧
      ∀ a mq, w.kernel.find? a = some mq → w₁.kernel.find? a = some mq := by
  unfold createReceiveChannel Libc.msgget at opened
  rcases Libc.call_cases (·.msgget w.pid.toBitVec ((0o666 ||| Libc.IPC_CREAT) &&& Libc.IPC_CREAT != 0)) w
    with ⟨a, k, -, ok, eq⟩ | ⟨e, eq⟩ <;> rw [eq] at opened
  · dsimp only at opened
    split at opened
    · cases opened
    · cases opened
      exact Kernel.msgget_key ok
  · cases opened

/-- `send_message` once the reply queue is in hand, or `-1` for none, and the
payload serialized: the paging loop's exit, with the reply channel, when one
is expected, in place of the loop's `Ok`. -/
theorem sendMessage_of_opened {self : MessageChannel} {handler : MessageHandler} {t : RString}
    {w w₁ w' : World} {q : BitVec 32} {r : Exit (Except (BitVec 32) Unit)}
    (opened : (if handler.expectResponse then createReceiveChannel w else (.ok (-1), w)) = (.ok q, w₁))
    (loop : sendLoop self handler.typeId q t.bytes w₁ = (r, w')) :
    sendMessage self handler (.ok t) w =
      (match r with
        | .returns (.ok ()) => .returns (.ok (if handler.expectResponse then some ⟨q⟩ else none))
        | .returns (.error e) => .returns (.error e)
        | .panics p => .panics p
        | .blocks => .blocks, w') := by
  simp only [sendMessage, opened, loop]
  rcases r with (_ | _) | _ | _ <;> cases handler.expectResponse <;> rfl

/-- What a `send_message` that returned `Ok` did: the payload serialized, a
reply queue was handed back exactly when one is expected, and the paging loop
ran to its end with that queue as `response_chan` (`-1` for none), from a
world with the same pid that `create_receive_channel` left, when one is
expected. -/
theorem sendMessage_ok {self : MessageChannel} {handler : MessageHandler}
    {message : Except String RString} {w w' : World} {r : Option ResponseChannel}
    (sent : sendMessage self handler message w = (.returns (.ok r), w')) :
    ∃ t w₁, message = .ok t ∧ r.isSome = handler.expectResponse ∧ w₁.pid = w.pid ∧
      (∀ c, r = some c → createReceiveChannel w = (.ok c.responseChan, w₁)) ∧
      sendLoop self handler.typeId ((r.map (·.responseChan)).getD (-1)) t.bytes w₁ = (.returns (.ok ()), w') := by
  rcases hc : (if handler.expectResponse then createReceiveChannel w else (.ok (-1), w)) with ⟨e | q, w₁⟩
  · have failed : sendMessage self handler message w = (.returns (.error e), w₁) := by
      simp only [sendMessage, hc]
    rw [failed] at sent
    cases sent
  · cases message with
    | error e =>
      simp only [sendMessage, hc] at sent
      cases sent
    | ok t =>
      rcases hl : sendLoop self handler.typeId q t.bytes w₁ with ⟨r', w₂⟩
      rw [sendMessage_of_opened hc hl] at sent
      rcases r' with (_ | _) | _ | _ <;> simp only [Prod.mk.injEq, Exit.returns.injEq, Except.ok.injEq,
        reduceCtorEq, false_and] at sent
      obtain ⟨rfl, rfl⟩ := sent
      cases hE : handler.expectResponse <;> rw [hE] at hc
      · cases hc
        exact ⟨t, w, rfl, rfl, rfl, fun _ none => by simp at none, hl⟩
      · exact ⟨t, w₁, rfl, rfl, (createReceiveChannel_live hc).2, fun _ reply => by cases reply; exact hc, hl⟩

/-- A `send_message` that handed back a reply channel got it from
`create_receive_channel`, its first call. -/
theorem sendMessage_reply {self : MessageChannel} {handler : MessageHandler}
    {message : Except String RString} {w w' : World} {r : ResponseChannel}
    (sent : sendMessage self handler message w = (.returns (.ok (some r)), w')) :
    ∃ w₁, createReceiveChannel w = (.ok r.responseChan, w₁) :=
  let ⟨_, w₁, _, _, _, created, _⟩ := sendMessage_ok sent
  ⟨w₁, created r rfl⟩

/-- A `send_message` that expects a reply, whose `create_receive_channel`
and paging loop succeed, hands back the reply queue. -/
theorem sendMessage_of_reply {self : MessageChannel} {handler : MessageHandler} {t : RString}
    {w w₁ w' : World} {q : BitVec 32} (expects : handler.expectResponse = true)
    (created : createReceiveChannel w = (.ok q, w₁))
    (done : sendLoop self handler.typeId q t.bytes w₁ = (.returns (.ok ()), w')) :
    sendMessage self handler (.ok t) w = (.returns (.ok (some ⟨q⟩)), w') := by
  rw [sendMessage_of_opened (by rw [if_pos expects, created]) done, if_pos expects]

/-- **Paging.** A paging loop that finishes has put exactly `pagedFrames` of
its data at the back of its queue, touching no other queue, and those frames
are laid out as `Framing` says: `⌈|s| / 100⌉` of them, none for the empty
sequence. A `send_message` that returns `Ok` ran that loop with the reply
queue it hands back, or `-1` when no reply is expected. -/
theorem sendLoop_emits_pagedFrames (self : MessageChannel) (typeId : BitVec 16) (receiveChan : BitVec 32)
    (s : List UInt8) (w w' : World) (done : sendLoop self typeId receiveChan s w = (.returns (.ok ()), w')) :
    Appended self.msqId ((pagedFrames w.pid typeId receiveChan s).map Message.toQueued) w w' ∧
    Framing w.pid typeId receiveChan s (pagedFrames w.pid typeId receiveChan s) ∧
    ∀ (handler : MessageHandler) (message : Except String RString) (v v' : World) (r : Option ResponseChannel),
      sendMessage self handler message v = (.returns (.ok r), v') →
      ∃ t v₁, message = .ok t ∧ r.isSome = handler.expectResponse ∧ v₁.pid = v.pid ∧
        sendLoop self handler.typeId ((r.map (·.responseChan)).getD (-1)) t.bytes v₁ = (.returns (.ok ()), v') :=
  ⟨(sendLoop_ok done).1, pagedFrames_framing _ _ _ _, fun _ _ _ _ _ sent =>
    let ⟨t, v₁, serialized, expected, samePid, _, loop⟩ := sendMessage_ok sent
    ⟨t, v₁, serialized, expected, samePid, loop⟩⟩

/-- A client with pid 1 beside the daemon's empty queue, id 0 under key
`0x50`, with these verdicts on its next calls. -/
def daemonWorld (faults : List (Option Errno)) : World :=
  ⟨1, Kernel.single 0x50 [], .UnknownErrno, [], faults⟩

/-- The JSON text `{}`. -/
def emptyObject : RString := ⟨[0x7B, 0x7D], by decide⟩

/-- The paging loop runs to its end on 150 bytes sent to the daemon's queue,
and appends two frames laid out as `Framing` says. -/
theorem sendLoop_emits_pagedFrames_150 :
    ∃ w', sendLoop ⟨0⟩ 0 (-1) (List.replicate 150 65) (daemonWorld []) = (.returns (.ok ()), w') ∧
      Appended 0 ((pagedFrames 1 0 (-1) (List.replicate 150 65)).map Message.toQueued) (daemonWorld []) w' ∧
      Framing 1 0 (-1) (List.replicate 150 65) (pagedFrames 1 0 (-1) (List.replicate 150 65)) ∧
      ∀ (handler : MessageHandler) (message : Except String RString) (v v' : World) (r : Option ResponseChannel),
        sendMessage ⟨0⟩ handler message v = (.returns (.ok r), v') →
        ∃ t v₁, message = .ok t ∧ r.isSome = handler.expectResponse ∧ v₁.pid = v.pid ∧
          sendLoop ⟨0⟩ handler.typeId ((r.map (·.responseChan)).getD (-1)) t.bytes v₁ = (.returns (.ok ()), v') := by
  obtain ⟨w', done, -⟩ :=
    @sendLoop_of_room ⟨0⟩ 0 (-1) (List.replicate 150 65) (daemonWorld []) ⟨0x50, []⟩ rfl rfl
      (by simp [roomFor, pageCount, MsgQueue.cbytes, sizeOfData, MSGMNB, MESSAGE_LENGTH])
  exact ⟨w', done, sendLoop_emits_pagedFrames ⟨0⟩ 0 (-1) (List.replicate 150 65) (daemonWorld []) w' done⟩

/-- The empty payload: the loop's condition fails at once, so it returns `Ok`
with the world as it was and no frame on the queue, where one final frame of
length zero was expected. -/
theorem sendLoop_empty_sends_nothing :
    sendLoop ⟨0⟩ 0 (-1) [] (daemonWorld []) = (.returns (.ok ()), daemonWorld []) ∧
      pagedFrames 1 0 (-1) [] = [] :=
  ⟨sendLoop_of_empty (by decide), rfl⟩

/-- A process with pid 1 whose reply queue, id 0 under key 1, holds frames of
type `MESSAGE_TYPE` with these texts, as any local process may queue them:
the queue is created with mode `0o666`. -/
def replyWorld (texts : List (List UInt8)) : World :=
  ⟨1, Kernel.single 1 (texts.map (⟨MESSAGE_TYPE, ·⟩)), .UnknownErrno, [], []⟩

/-- One reply queue per pid: when a queue was already created under the
process's pid, `create_receive_channel` hands back that queue, with whatever
it holds, and changes nothing. -/
theorem createReceiveChannel_reuses {w : World} {msqid : BitVec 32} (noFault : w.faults = [])
    (public : w.pid.toBitVec ≠ IPC_PRIVATE) (keyed : w.kernel.keyed? w.pid.toBitVec = some msqid) :
    createReceiveChannel w = (.ok msqid, w) := by
  simp only [createReceiveChannel, Libc.msgget_of_keyed noFault public keyed,
    if_neg (Libc.ne_neg_one_of_live (Kernel.find?_of_keyed? keyed))]

/-- With no verdict against the call and room in the table,
`create_receive_channel` succeeds and keeps every queue that was there. -/
theorem createReceiveChannel_of_room {w : World} (noFault : w.faults = [])
    (room : w.kernel.queues.length < MSGMNI) :
    ∃ q w₁, createReceiveChannel w = (.ok q, w₁) ∧ w₁.faults = [] ∧
      ∀ a, (w.kernel.find? a).isSome → (w₁.kernel.find? a).isSome := by
  obtain ⟨q, k, created⟩ := @Kernel.msgget_of_room w.kernel w.pid.toBitVec room
  obtain ⟨live, keeps⟩ := Kernel.msgget_live created
  have flag : ((0o666 ||| Libc.IPC_CREAT) &&& Libc.IPC_CREAT != 0) = true := by decide
  refine ⟨q, { w with kernel := k }, ?_, noFault, keeps⟩
  simp only [createReceiveChannel, Libc.msgget, Libc.call, World.nextFault_nil w noFault, flag, created,
    Option.getD_some, if_neg (Libc.ne_neg_one_of_live live)]

/-- With no verdict against the call, room in the table and no queue under
the pid, `create_receive_channel` creates an empty queue under an identifier
that was free, and changes nothing else. -/
theorem createReceiveChannel_fresh {w : World} (noFault : w.faults = [])
    (room : w.kernel.queues.length < MSGMNI) (unused : w.kernel.keyed? w.pid.toBitVec = none) :
    ∃ q k, createReceiveChannel w = (.ok q, { w with kernel := k }) ∧ w.kernel.find? q = none ∧
      ∀ a, k.find? a = if a = q then some ⟨w.pid.toBitVec, []⟩ else w.kernel.find? a := by
  obtain ⟨q, k, created, free, spec⟩ := Kernel.msgget_fresh room unused
  have flag : ((0o666 ||| Libc.IPC_CREAT) &&& Libc.IPC_CREAT != 0) = true := by decide
  have live : (k.find? q).isSome := by simp [spec]
  refine ⟨q, k, ?_, free, spec⟩
  simp only [createReceiveChannel, Libc.msgget, Libc.call, World.nextFault_nil w noFault, flag, created,
    Option.getD_some, if_neg (Libc.ne_neg_one_of_live live)]

/-- A `msgsnd` that the environment fails ends the paging loop at once, with
`Err(1)` and the queues as they were. -/
theorem sendLoop_interrupted (self : MessageChannel) (typeId : BitVec 16) (receiveChan : BitVec 32)
    {data : List UInt8} {w : World} {e : Errno} {rest : List (Option Errno)}
    (interrupted : w.faults = some e :: rest) (nonempty : data ≠ []) :
    ∃ w', sendLoop self typeId receiveChan data w = (.returns (.error 1), w') ∧ w'.kernel = w.kernel := by
  rw [sendLoop, if_pos (List.length_pos.mpr nonempty)]
  simp [sendPagedMessage, Libc.msgsnd, World.nextFault, interrupted, World.eprintln]

/-- **No exit path closes the reply queue.** Whichever way `send_message`
fails after `create_receive_channel` opened a queue (serialization, or
`msgsnd` on any chunk), it returns `Err` and so no handle to that queue,
and the queue is still in the table. -/
theorem sendMessage_error_keeps_reply_queue {self : MessageChannel} {handler : MessageHandler}
    {message : Except String RString} {w w₁ w' : World} {q e : BitVec 32}
    (expects : handler.expectResponse = true) (opened : createReceiveChannel w = (.ok q, w₁))
    (failed : sendMessage self handler message w = (.returns (.error e), w')) : (w'.kernel.find? q).isSome := by
  have live := (createReceiveChannel_live opened).1
  cases message with
  | error err =>
    simp only [sendMessage, expects, opened, ↓reduceIte, Prod.mk.injEq] at failed
    rw [← failed.2]
    exact live
  | ok t =>
    have keeps := sendLoop_keeps_queues self handler.typeId q t.bytes w₁ q
    rcases hl : sendLoop self handler.typeId q t.bytes w₁ with ⟨r, w₂⟩
    rw [sendMessage_of_opened (by rw [if_pos expects, opened]) hl] at failed
    rw [hl] at keeps
    rcases r with (_ | _) | _ | _ <;>
      simp only [Prod.mk.injEq, Exit.returns.injEq, reduceCtorEq, false_and] at failed
    rw [← failed.2, keeps]
    exact live

/-- A signal interrupts the first `msgsnd` of a request that expects a reply:
`send_message` created the reply queue 1 under the client's pid, returns
`Err(1)`, and queue 1 stays in the table. -/
theorem sendMessage_error_keeps_reply_queue_on_interrupt :
    (daemonWorld [none, some .EINTR]).kernel.find? 1 = none ∧
    createReceiveChannel (daemonWorld [none, some .EINTR]) =
      (.ok 1, (createReceiveChannel (daemonWorld [none, some .EINTR])).2) ∧
    sendMessage ⟨0⟩ ⟨0, true⟩ (.ok emptyObject) (daemonWorld [none, some .EINTR]) =
      (.returns (.error 1), (sendMessage ⟨0⟩ ⟨0, true⟩ (.ok emptyObject) (daemonWorld [none, some .EINTR])).2) ∧
    ((sendMessage ⟨0⟩ ⟨0, true⟩ (.ok emptyObject) (daemonWorld [none, some .EINTR])).2.kernel.find? 1).isSome := by
  obtain ⟨w₁, opened⟩ : ∃ w₁, createReceiveChannel (daemonWorld [none, some .EINTR]) = (.ok 1, w₁) :=
    ⟨_, Prod.ext (by decide) rfl⟩
  have interruptedNext : w₁.faults = [some .EINTR] := by
    have next := congrArg (·.2.faults) opened
    exact next.symm.trans rfl
  obtain ⟨w', interrupted, -⟩ :=
    @sendLoop_interrupted ⟨0⟩ 0 1 emptyObject.bytes w₁ .EINTR [] interruptedNext (by decide)
  have failed : sendMessage ⟨0⟩ ⟨0, true⟩ (.ok emptyObject) (daemonWorld [none, some .EINTR]) =
      (.returns (.error 1), w') :=
    (sendMessage_of_opened (by rw [if_pos rfl, opened]) interrupted).trans rfl
  rw [opened, failed]
  exact ⟨rfl, rfl, rfl, sendMessage_error_keeps_reply_queue rfl opened failed⟩

end Paperd.Messaging
