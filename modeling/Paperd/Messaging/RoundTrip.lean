/-
# Strings paged there and back

The sender's paging loop and the receiver's reassembly loop together. Strings
paged one after another onto one queue by the loop of `send_message` are read
back by the loop of `receive_message`, one run per string: each run returns
the string's bytes and stops at its last frame, leaving the frames of the next
strings on the queue, and each buffer decodes to the string it came from. A
frame boundary may fall inside a character, since the bytes are put together
again before they are decoded.

The last section follows one request through its whole life: the reply queue
that `send_message` creates receives the daemon's reply, `receive_message`
empties it, and `close` removes it, so the client leaves the table as it
found it but for its request on the daemon's queue. A queue that an earlier
process with the same pid left holding a reply is handed out again, and that
reply is what `receive_message` reads.
-/

import Paperd.Messaging.Receive

namespace Paperd.Messaging

open Paperd.Sysv Paperd.Utf8

/-- The frames of each string in turn, as the queue holds them. -/
def pending (pid : UInt32) (typeId : BitVec 16) (receiveChan : BitVec 32) (ts : List RString) :
    List QueuedMessage :=
  (ts.map fun t => (pagedFrames pid typeId receiveChan t.bytes).map Message.toQueued).flatten

@[simp] theorem pending_nil (pid : UInt32) (typeId : BitVec 16) (receiveChan : BitVec 32) :
    pending pid typeId receiveChan [] = [] := rfl

@[simp] theorem pending_cons (pid : UInt32) (typeId : BitVec 16) (receiveChan : BitVec 32)
    (t : RString) (ts : List RString) :
    pending pid typeId receiveChan (t :: ts) =
      (pagedFrames pid typeId receiveChan t.bytes).map Message.toQueued ++ pending pid typeId receiveChan ts :=
  rfl

/-- The paging loop of `send_message` run on each string in turn, stopping at
the first that does not end `Ok`. -/
def sendAll (self : MessageChannel) (typeId : BitVec 16) (receiveChan : BitVec 32) :
    List RString → World → Exit (Except (BitVec 32) Unit) × World
  | [], w => (.returns (.ok ()), w)
  | t :: ts, w =>
    match sendLoop self typeId receiveChan t.bytes w with
    | (.returns (.ok ()), w) => sendAll self typeId receiveChan ts w
    | other => other

/-- `n` runs of the reassembly loop of `receive_message`, each from the zeroed
buffer, with the world after each. -/
def receiveRuns (self : ResponseChannel) :
    Nat → World → List (Exit (Except (BitVec 32) (List UInt8)) × World)
  | 0, _ => []
  | n + 1, w =>
    let run := receiveLoop self zeroedMessage [] w
    run :: receiveRuns self n run.2

/-- Sending every string, when it runs to the end, puts the frames of each
string in turn on the queue, and with no verdict against its calls leaves
none. -/
theorem sendAll_returns (self : MessageChannel) (typeId : BitVec 16) (receiveChan : BitVec 32) :
    ∀ (ts : List RString) (w w₁ : World) (q : MsgQueue),
      sendAll self typeId receiveChan ts w = (.returns (.ok ()), w₁) → w.faults = [] →
      w.kernel.find? self.msqId = some q →
      w₁.faults = [] ∧ w₁.pid = w.pid ∧
        w₁.kernel.find? self.msqId = some { q with messages := q.messages ++ pending w.pid typeId receiveChan ts }
  | [], w, w₁, q, sent, noFault, found => by
    cases sent
    exact ⟨noFault, rfl, by simp [found]⟩
  | t :: ts, w, w₁, q, sent, noFault, found => by
    rcases done : sendLoop self typeId receiveChan t.bytes w with ⟨r, w₂⟩
    have noFault₂ := @sendLoop_faults self typeId receiveChan t.bytes w noFault
    rw [done] at noFault₂
    rw [sendAll, done] at sent
    rcases r with (_ | _) | _ | _ <;> try cases sent
    obtain ⟨appended, samePid, -⟩ := sendLoop_ok done
    have found₂ : w₂.kernel.find? self.msqId = some { q with
        messages := q.messages ++ (pagedFrames w.pid typeId receiveChan t.bytes).map Message.toQueued } := by
      rw [appended, if_pos rfl, found]
      rfl
    obtain ⟨noFault₁, pid₁, found₁⟩ := sendAll_returns self typeId receiveChan ts w₂ w₁ _ sent noFault₂ found₂
    refine ⟨noFault₁, pid₁.trans samePid, ?_⟩
    rw [found₁, samePid, pending_cons, List.append_assoc]

/-- With no verdict against it and room on its queue for every frame of every
string, sending every string runs to the end. -/
theorem sendAll_of_room (self : MessageChannel) (typeId : BitVec 16) (receiveChan : BitVec 32) :
    ∀ (ts : List RString) (w : World) (q : MsgQueue), w.faults = [] → w.kernel.find? self.msqId = some q →
      roomFor q (pending w.pid typeId receiveChan ts).length →
      ∃ w₁, sendAll self typeId receiveChan ts w = (.returns (.ok ()), w₁)
  | [], w, _, _, _, _ => ⟨w, rfl⟩
  | t :: ts, w, q, noFault, found, room => by
    rw [pending_cons, List.length_append, List.length_map] at room
    obtain ⟨w₁, done, noFault₁⟩ := @sendLoop_of_room self typeId receiveChan t.bytes w q noFault found
      (roomFor_of_le (by rw [length_pagedFrames]; exact Nat.le_add_right _ _) room)
    obtain ⟨appended, samePid, -⟩ := sendLoop_ok done
    have found₁ := appended self.msqId
    rw [if_pos rfl, found, Option.map_some'] at found₁
    obtain ⟨w', rest⟩ := sendAll_of_room self typeId receiveChan ts w₁ _ noFault₁ found₁
      (by rw [samePid]; exact roomFor_push_all _ room)
    exact ⟨w', by rw [sendAll, done]; exact rest⟩

/-- One run of the reassembly loop reads one paged string back: behind
messages of other types, the frames of a non-empty `data` give the buffer
`data`, and what follows them stays on the queue. -/
theorem receiveLoop_pagedFrames (self : ResponseChannel) {other later : List QueuedMessage}
    (skipped : ∀ o ∈ other, o.mType ≠ MESSAGE_TYPE) {pid : UInt32} {typeId : BitVec 16}
    {receiveChan : BitVec 32} {data : List UInt8} (nonempty : data ≠ []) (message : Message)
    (buffer : List UInt8) {w : World} {q : MsgQueue} (noFault : w.faults = [])
    (found : w.kernel.find? self.responseChan = some q)
    (layout : q.messages = other ++ (pagedFrames pid typeId receiveChan data).map Message.toQueued ++ later) :
    receiveLoop self message buffer w =
      (.returns (.ok (buffer ++ data)),
        { w with kernel := w.kernel.setMessages self.responseChan (other ++ later) }) := by
  have framing := pagedFrames_framing pid typeId receiveChan data
  have someFrame : pagedFrames pid typeId receiveChan data ≠ [] := by
    have := List.length_pos.mpr nonempty
    rw [← List.length_pos, framing.count, MESSAGE_LENGTH]
    omega
  rw [receiveLoop_frames self skipped _ message buffer w q someFrame (fun f mem => ?_) framing.final noFault
    found layout, framing.payloads]
  refine ⟨(framing.header f mem).1, ?_⟩
  rw [framing.declared f mem, ← f.data.message_size]
  exact List.length_take_le' _ _

/-- Runs of the reassembly loop over a queue holding, behind messages of other
types, the frames of non-empty strings: run `i` returns the bytes of string
`i` and leaves the frames of the strings after it. -/
theorem receiveRuns_pending (self : ResponseChannel) {other : List QueuedMessage}
    (skipped : ∀ o ∈ other, o.mType ≠ MESSAGE_TYPE) (pid : UInt32) (typeId : BitVec 16)
    (receiveChan : BitVec 32) :
    ∀ (ts : List RString), (∀ t ∈ ts, t.bytes ≠ []) → ∀ (w : World) (q : MsgQueue), w.faults = [] →
      w.kernel.find? self.responseChan = some q →
      q.messages = other ++ pending pid typeId receiveChan ts →
      receiveRuns self ts.length w = ts.mapIdx fun i t => (.returns (.ok t.bytes),
        { w with
          kernel := w.kernel.setMessages self.responseChan (other ++ pending pid typeId receiveChan (ts.drop (i + 1))) })
  | [], _, _, _, _, _, _ => rfl
  | t :: ts, nonempty, w, q, noFault, found, layout => by
    have run := receiveLoop_pagedFrames self skipped (nonempty t (List.mem_cons_self _ _)) zeroedMessage []
      noFault found (by rw [layout, pending_cons, List.append_assoc])
    rw [List.nil_append] at run
    have rest := receiveRuns_pending self skipped pid typeId receiveChan ts
      (fun t' mem => nonempty t' (List.mem_cons_of_mem _ mem))
      { w with kernel := w.kernel.setMessages self.responseChan (other ++ pending pid typeId receiveChan ts) }
      { q with messages := other ++ pending pid typeId receiveChan ts } noFault (by simp [found]) rfl
    simp only [List.length_cons, receiveRuns, run, rest, List.mapIdx_cons, List.drop_succ_cons,
      List.drop_zero, Kernel.setMessages_setMessages]

/-- `receive_message` on a reply queue that holds, behind messages of other
types, the frames of a non-empty `data`: the loop takes exactly those frames
off the queue and `data` is decoded. -/
theorem receiveMessage_of_pagedFrames {R : Type} (parse : RString → Except String R)
    (parseError : RString → Except String ServerErrorMessage) (self : ResponseChannel)
    {other later : List QueuedMessage} (skipped : ∀ o ∈ other, o.mType ≠ MESSAGE_TYPE) {pid : UInt32}
    {typeId : BitVec 16} {receiveChan : BitVec 32} {data : List UInt8} (nonempty : data ≠ []) {w : World}
    {q : MsgQueue} (noFault : w.faults = []) (found : w.kernel.find? self.responseChan = some q)
    (layout : q.messages = other ++ (pagedFrames pid typeId receiveChan data).map Message.toQueued ++ later) :
    receiveMessage parse parseError self w =
      let w₁ := { w with kernel := w.kernel.setMessages self.responseChan (other ++ later) }
      (.returns (decodeResponse parse parseError data w₁).1, (decodeResponse parse parseError data w₁).2) := by
  have run := receiveLoop_pagedFrames self skipped nonempty zeroedMessage [] noFault found layout
  rw [List.nil_append] at run
  simp only [receiveMessage, run]

/-- **Reading a reply.** On a reply queue that holds, behind messages of other
types, the frames of a non-empty text paged as `send_message` pages its
payload, `receive_message` reads exactly those frames and hands the text to
serde as it was sent, so no reply fails to decode: it returns what
`from_str::<R>` makes of the text, or else prints the server's error text
verbatim, or else the parse error. -/
theorem receiveMessage_pagedReply {R : Type} (parse : RString → Except String R)
    (parseError : RString → Except String ServerErrorMessage) (self : ResponseChannel)
    {other later : List QueuedMessage} (skipped : ∀ o ∈ other, o.mType ≠ MESSAGE_TYPE) {pid : UInt32}
    {typeId : BitVec 16} {receiveChan : BitVec 32} (t : RString) (nonempty : t.bytes ≠ []) {w : World}
    {q : MsgQueue} (noFault : w.faults = []) (found : w.kernel.find? self.responseChan = some q)
    (layout : q.messages = other ++ (pagedFrames pid typeId receiveChan t.bytes).map Message.toQueued ++ later) :
    receiveMessage parse parseError self w =
      let w₁ := { w with kernel := w.kernel.setMessages self.responseChan (other ++ later) }
      match parse t with
      | .ok r => (.returns (.ok r), w₁)
      | .error e =>
        match parseError t with
        | .ok message => (.returns (.error 1), w₁.eprintln message.error)
        | .error _ => (.returns (.error 1), w₁.eprintln s!"Failed to parse response from server: {e}") := by
  rw [receiveMessage_of_pagedFrames parse parseError self skipped nonempty noFault found layout]
  simp only [decodeResponse, fromUtf8_bytes]
  rcases parse t with e | r
  · rcases parseError t with _ | message <;> rfl
  · rfl

/-- A client of pid 1 whose reply queue, id 0 under key 1, holds the reply
`text` paged for type 1 by the daemon of pid 7. -/
def pagedReplyWorld (text : RString) : World :=
  ⟨1, Kernel.single 1 ((pagedFrames 7 1 (-1) text.bytes).map Message.toQueued), .UnknownErrno, [], []⟩

/-- The reply `{}`, read with a parser that accepts it. -/
theorem receiveMessage_pagedReply_emptyObject :
    receiveMessage (fun text => .ok text.bytes.length) (fun _ => .error "not an envelope") ⟨0⟩
        (pagedReplyWorld emptyObject) =
      (.returns (.ok 2), { pagedReplyWorld emptyObject with
        kernel := (pagedReplyWorld emptyObject).kernel.setMessages 0 ([] ++ []) }) :=
  @receiveMessage_pagedReply _ _ _ ⟨0⟩ [] [] (by simp) 7 1 (-1) emptyObject (by decide)
    (pagedReplyWorld emptyObject) ⟨1, (pagedFrames 7 1 (-1) emptyObject.bytes).map Message.toQueued⟩ rfl
    rfl (by simp)

/-- **Round trip.** Non-empty strings paged one after another onto a queue
that holds no frames yet, with no verdict against any call, are read back by
as many runs of the reassembly loop: run `i` returns exactly the bytes of
string `i`, having read to the last frame of that string and no further, and
those bytes decode to string `i`. The paging runs to its end when the queue
has room for every frame; with no reader, a queue too full for them makes
`msgsnd` wait. -/
theorem paged_strings_round_trip (c : BitVec 32) (typeId : BitVec 16) (receiveChan : BitVec 32)
    (ts : List RString) (w : World) (q : MsgQueue) (nonempty : ∀ t ∈ ts, t.bytes ≠ [])
    (noFault : w.faults = []) (found : w.kernel.find? c = some q)
    (clean : ∀ m ∈ q.messages, m.mType ≠ MESSAGE_TYPE) :
    (roomFor q (pending w.pid typeId receiveChan ts).length →
      ∃ w₁, sendAll ⟨c⟩ typeId receiveChan ts w = (.returns (.ok ()), w₁)) ∧
    (∀ w₁, sendAll ⟨c⟩ typeId receiveChan ts w = (.returns (.ok ()), w₁) →
      w₁.kernel.find? c = some { q with messages := q.messages ++ pending w.pid typeId receiveChan ts } ∧
      receiveRuns ⟨c⟩ ts.length w₁ = ts.mapIdx (fun i t => (.returns (.ok t.bytes),
        { w₁ with
          kernel := w₁.kernel.setMessages c (q.messages ++ pending w.pid typeId receiveChan (ts.drop (i + 1))) }))) ∧
    ∀ t ∈ ts, fromUtf8 t.bytes = .ok t := by
  refine ⟨sendAll_of_room ⟨c⟩ typeId receiveChan ts w q noFault found, fun w₁ sent => ?_, fun t _ => fromUtf8_bytes t⟩
  obtain ⟨noFault₁, -, found₁⟩ := sendAll_returns ⟨c⟩ typeId receiveChan ts w w₁ q sent noFault found
  exact ⟨found₁, receiveRuns_pending ⟨c⟩ clean w.pid typeId receiveChan ts nonempty w₁ _ noFault₁ found₁ rfl⟩

/-- A string of 101 bytes, 99 times `a` then `é`, whose first frame ends
between the two bytes of `é`. -/
def splitAcute : RString := ⟨List.replicate 99 0x61 ++ [0xC3, 0xA9], by decide⟩

/-- `splitAcute` and then the JSON text `{}`, sent to the daemon's empty
queue and read back from it. -/
theorem paged_strings_round_trip_split_character :
    ∃ w₁, sendAll ⟨0⟩ 0 (-1) [splitAcute, emptyObject] (daemonWorld []) = (.returns (.ok ()), w₁) ∧
      w₁.kernel.find? 0 = some ⟨0x50, pending 1 0 (-1) [splitAcute, emptyObject]⟩ ∧
      receiveRuns ⟨0⟩ 2 w₁ = [splitAcute, emptyObject].mapIdx (fun i t => (.returns (.ok t.bytes),
        { w₁ with kernel := w₁.kernel.setMessages 0 (pending 1 0 (-1) ([splitAcute, emptyObject].drop (i + 1))) })) ∧
      ∀ t ∈ [splitAcute, emptyObject], fromUtf8 t.bytes = .ok t := by
  obtain ⟨fits, readBack, decoded⟩ :=
    paged_strings_round_trip 0 0 (-1) [splitAcute, emptyObject] (daemonWorld []) ⟨0x50, []⟩ (by decide) rfl rfl
      (by simp)
  obtain ⟨w₁, sent⟩ := fits (by
    simp [pending, roomFor, MsgQueue.cbytes, splitAcute, emptyObject, pageCount, sizeOfData, MSGMNB, MESSAGE_LENGTH])
  exact ⟨w₁, sent, (readBack w₁ sent).1, (readBack w₁ sent).2, decoded⟩

/-! ### A request and its reply -/

/-- The daemon answers on a reply queue: the frames of `reply`, paged as
`send_message` pages, join the back of the queue. -/
def daemonReplies (ch : ResponseChannel) (pid : UInt32) (typeId : BitVec 16) (receiveChan : BitVec 32)
    (reply : RString) (w : World) : World :=
  { w with
    kernel := w.kernel.setMessages ch.responseChan
      (((w.kernel.find? ch.responseChan).map (·.messages)).getD [] ++
        (pagedFrames pid typeId receiveChan reply.bytes).map Message.toQueued) }

/-- **A request and its reply leave no queue behind.** A client with no reply
queue under its pid, no signal or error against its calls, the daemon's queue
there with room for the request's frames, and room in the table, sends a
request that expects a reply: it gets a
reply channel on a queue that did not exist before. Once the daemon has paged
a non-empty reply onto it, `receive_message` returns, and `close` succeeds.
The table is then the one the client started from with the request's frames
at the back of the daemon's queue: the reply queue is gone. -/
theorem exchange_leaves_no_reply_queue (self : MessageChannel) (handler : MessageHandler)
    (expects : handler.expectResponse = true) (request reply : RString) (answered : reply.bytes ≠ [])
    (daemonPid : UInt32) (replyType : BitVec 16) (replyChan : BitVec 32) {R : Type}
    (parse : RString → Except String R) (parseError : RString → Except String ServerErrorMessage)
    {w : World} {daemon : MsgQueue} (noFault : w.faults = []) (found : w.kernel.find? self.msqId = some daemon)
    (fits : roomFor daemon (pageCount request.bytes))
    (room : w.kernel.queues.length < MSGMNI) (unused : w.kernel.keyed? w.pid.toBitVec = none) :
    ∃ ch w₁ r w₂ w₃, sendMessage self handler (.ok request) w = (.returns (.ok (some ch)), w₁) ∧
      w.kernel.find? ch.responseChan = none ∧
      receiveMessage parse parseError ch (daemonReplies ch daemonPid replyType replyChan reply w₁) =
        (.returns r, w₂) ∧
      close ch w₂ = (.ok (), w₃) ∧
      Appended self.msqId ((pagedFrames w.pid handler.typeId ch.responseChan request.bytes).map Message.toQueued)
        w w₃ := by
  obtain ⟨q, k, opened, free, created⟩ := createReceiveChannel_fresh noFault room unused
  have apart : self.msqId ≠ q := fun same => by simp [same, free] at found
  obtain ⟨w₁, done, noFault₁⟩ :=
    @sendLoop_of_room self handler.typeId q request.bytes { w with kernel := k } daemon noFault
      (by rw [created, if_neg apart]; exact found) fits
  have appended := (sendLoop_ok done).1
  have replyQueue : w₁.kernel.find? q = some ⟨w.pid.toBitVec, []⟩ := by
    rw [appended, if_neg apart.symm]
    exact (created q).trans (if_pos rfl)
  have answer : (daemonReplies ⟨q⟩ daemonPid replyType replyChan reply w₁).kernel.find? q =
      some ⟨w.pid.toBitVec, (pagedFrames daemonPid replyType replyChan reply.bytes).map Message.toQueued⟩ := by
    simp [daemonReplies, replyQueue]
  have received := @receiveMessage_of_pagedFrames R parse parseError ⟨q⟩ [] [] (by simp) daemonPid replyType
    replyChan reply.bytes answered (daemonReplies ⟨q⟩ daemonPid replyType replyChan reply w₁) _ noFault₁ answer
    (by simp)
  refine ⟨⟨q⟩, w₁, _, _, _, sendMessage_of_reply expects opened done, free, received,
    close_of_live ⟨q⟩ (by simpa using noFault₁) (by simp [daemonReplies, replyQueue]), fun a => ?_⟩
  by_cases here : a = q
  · subst here
    simp [free, apart.symm]
  · simp [here, daemonReplies, appended a, created a]

/-- Pid 1 asks the daemon's empty queue for a reply; the daemon of pid 7
answers `{}`, which the client's parser accepts. -/
theorem exchange_leaves_no_reply_queue_emptyObject :
    ∃ ch w₁ r w₂ w₃, sendMessage ⟨0⟩ ⟨0, true⟩ (.ok emptyObject) (daemonWorld []) = (.returns (.ok (some ch)), w₁) ∧
      (daemonWorld []).kernel.find? ch.responseChan = none ∧
      receiveMessage (fun text => .ok text.bytes.length) (fun _ => .error "not an envelope") ch
          (daemonReplies ch 7 1 (-1) emptyObject w₁) = (.returns r, w₂) ∧
      close ch w₂ = (.ok (), w₃) ∧
      Appended 0 ((pagedFrames 1 0 ch.responseChan emptyObject.bytes).map Message.toQueued) (daemonWorld []) w₃ :=
  exchange_leaves_no_reply_queue ⟨0⟩ ⟨0, true⟩ rfl emptyObject emptyObject (by decide) 7 1 (-1) _ _ rfl rfl
    (by decide) (by decide) rfl

/-- **A reply left behind is read first.** Reply queues are keyed by pid and
reused. A process whose pid's queue still holds an earlier, complete reply (left
by a process with the same pid whose `receive_message` never ran) sends a request
that expects a reply, with no verdict against its calls and room on the
daemon's queue for the request's frames. It gets that queue back
as its reply channel. Once the daemon has paged its answer onto it,
`receive_message` returns the earlier reply, parsed as the caller's type. The
answer to this request stays queued behind it. -/
theorem stale_reply_read_first (self : MessageChannel) (handler : MessageHandler)
    (expects : handler.expectResponse = true) (request reply : RString)
    (daemonPid : UInt32) (replyType : BitVec 16) (replyChan : BitVec 32) {R : Type}
    (parse : RString → Except String R) (parseError : RString → Except String ServerErrorMessage)
    {w : World} {daemon : MsgQueue} (noFault : w.faults = []) (found : w.kernel.find? self.msqId = some daemon)
    (fits : roomFor daemon (pageCount request.bytes))
    (public : w.pid.toBitVec ≠ IPC_PRIVATE) {msqid : BitVec 32} {q : MsgQueue}
    (left : w.kernel.find? msqid = some q) (owned : q.key = w.pid.toBitVec)
    {pid : UInt32} {typeId : BitVec 16} {receiveChan : BitVec 32} {old : RString} (answered : old.bytes ≠ [])
    {rest : List QueuedMessage}
    (leftover : q.messages = (pagedFrames pid typeId receiveChan old.bytes).map Message.toQueued ++ rest) :
    ∃ w₁, sendMessage self handler (.ok request) w = (.returns (.ok (some ⟨msqid⟩)), w₁) ∧
      (receiveMessage parse parseError ⟨msqid⟩ (daemonReplies ⟨msqid⟩ daemonPid replyType replyChan reply w₁)).1 =
        .returns (match parse old with
          | .ok r => .ok r
          | .error _ => .error 1) := by
  have keyed : w.kernel.keyed? w.pid.toBitVec = some msqid :=
    owned ▸ Kernel.keyed?_of_find? left (owned ▸ public)
  have reused := createReceiveChannel_reuses noFault public keyed
  obtain ⟨w₁, done, noFault₁⟩ := @sendLoop_of_room self handler.typeId msqid request.bytes w daemon noFault found fits
  obtain ⟨appended, kept⟩ : ∃ appended, w₁.kernel.find? msqid = some (q.push appended) := by
    rw [(sendLoop_ok done).1 msqid, left]
    split
    · exact ⟨_, rfl⟩
    · exact ⟨[], by rw [MsgQueue.push_nil]⟩
  have answer : (daemonReplies ⟨msqid⟩ daemonPid replyType replyChan reply w₁).kernel.find? msqid =
      some (q.push (appended ++ (pagedFrames daemonPid replyType replyChan reply.bytes).map Message.toQueued)) := by
    simp [daemonReplies, kept, MsgQueue.push]
  have received := @receiveMessage_of_pagedFrames R parse parseError ⟨msqid⟩ []
    (rest ++ (appended ++ (pagedFrames daemonPid replyType replyChan reply.bytes).map Message.toQueued)) (by simp) pid typeId
    receiveChan old.bytes answered
    (daemonReplies ⟨msqid⟩ daemonPid replyType replyChan reply w₁) _ noFault₁ answer (by simp [MsgQueue.push, leftover])
  refine ⟨w₁, sendMessage_of_reply expects reused done, ?_⟩
  rw [received]
  simp only [decodeResponse, fromUtf8_bytes]
  rcases parse old with e | r
  · dsimp only
    split <;> rfl
  · rfl

/-- The daemon's empty queue 0 under key `0x50`, and queue 1 under key 1, left
by an earlier process with pid 1 holding the daemon's reply `{}`. -/
def leftoverKernel : Kernel :=
  ⟨[(0, ⟨0x50, []⟩), (1, ⟨1, (pagedFrames 7 1 (-1) emptyObject.bytes).map Message.toQueued⟩)], by decide,
    by simp [MSGMNI], by simp⟩

/-- A process with pid 1 on that table, with no verdict against its calls. -/
def leftoverWorld : World := ⟨1, leftoverKernel, .UnknownErrno, [], []⟩

/-- The client asks for a reply and the daemon answers with 101 bytes, but
the client reads the `{}` left on its queue. -/
theorem stale_reply_read_first_emptyObject :
    ∃ w₁, sendMessage ⟨0⟩ ⟨0, true⟩ (.ok emptyObject) leftoverWorld = (.returns (.ok (some ⟨1⟩)), w₁) ∧
      (receiveMessage (fun text => .ok text.bytes) (fun _ => .error "not an envelope") ⟨1⟩
        (daemonReplies ⟨1⟩ 7 1 (-1) splitAcute w₁)).1 = .returns (.ok emptyObject.bytes) :=
  @stale_reply_read_first ⟨0⟩ ⟨0, true⟩ rfl emptyObject splitAcute 7 1 (-1) _ (fun text => .ok text.bytes)
    (fun _ => .error "not an envelope") leftoverWorld _ rfl rfl (by decide) (by decide) 1 _ rfl rfl 7 1 (-1) emptyObject
    (by decide) [] (List.append_nil _).symm

end Paperd.Messaging
