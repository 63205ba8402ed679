/-
# Several senders on one queue

The daemon's queue is shared: every client that runs `send_message` pages its
request onto it with one `msgsnd` per frame. The kernel makes each call atomic
but not the loop, so the frames of two requests can interleave on the queue,
while the daemon takes frames off it. This module runs the paging loop one
pass at a time, as the kernel sees it, in a system of senders that share one
table with readers, under every schedule.

What holds across every interleaving is per-sender order: on each queue, the
frames that carry a sender's pid (those readers have taken, then those still
queued) are the frames that sender has sent so far, in order, none lost and
none repeated, and a prefix of what its whole payload needs. A reader that
sorts frames by `response_pid` and reassembles each sender's frames therefore
reads every request whose loop finished, and never completes one whose loop
failed. No other process can hold a sender up: with no verdict against its
calls, each of its passes sends a frame or ends its loop `Ok`.

Two requests that share a pid are another matter. Frames carry no request
number, so the frames a failed loop left run into the next request from that
pid.

Senders have distinct pids, as distinct processes do. Only the paging loop is
run in steps; no queue is created or removed here.
-/

import Paperd.Messaging.Reassembly
import Paperd.Messaging.Send

namespace Paperd.Messaging

open Paperd.Sysv

/-! ### The paging loop one pass at a time -/

/-- Where one pass of the paging loop leaves it: going on with the bytes left,
ended with its result, or waiting in `msgsnd` for room on its queue. -/
inductive Pass where
  | next (data : List UInt8) (w : World)
  | stop (r : Except (BitVec 32) Unit) (w : World)
  | waits

/-- One pass of the paging loop of `send_message`: the test `data.len() > 0`,
then one frame and the check of what `msgsnd` returned. -/
def sendPass (self : MessageChannel) (typeId : BitVec 16) (receiveChan : BitVec 32)
    (data : List UInt8) (w : World) : Pass :=
  if data.length > 0 then
    match sendNext self typeId receiveChan data w with
    | none => .waits
    | some (ret, w) =>
      if ret = -1 then
        let msqId := self.msqId.toInt
        let desc := w.errno.desc
        .stop (.error 1) (w.eprintln s!"Failed to send message to channel: {msqId}: {desc}")
      else .next (data.drop (min data.length MESSAGE_LENGTH)) w
  else .stop (.ok ()) w

/-- The loop is its passes: one pass, then the loop again from where the pass
left it; a pass that waits is a loop that waits. -/
theorem sendLoop_eq_sendPass (self : MessageChannel) (typeId : BitVec 16) (receiveChan : BitVec 32)
    (data : List UInt8) (w : World) :
    sendLoop self typeId receiveChan data w =
      match sendPass self typeId receiveChan data w with
      | .next data w => sendLoop self typeId receiveChan data w
      | .stop r w => (.returns r, w)
      | .waits => (.blocks, w) := by
  by_cases nonempty : data.length > 0
  · rcases sent : sendNext self typeId receiveChan data w with _ | ⟨ret, w₁⟩
    · rw [sendLoop_of_waits nonempty sent, sendPass, if_pos nonempty, sent]
    · by_cases failed : ret = -1
      · subst failed
        rw [sendLoop_of_failed nonempty sent, sendPass, if_pos nonempty, sent]
        rfl
      · rw [sendLoop_of_sent nonempty sent failed, sendPass, if_pos nonempty, sent]
        simp only [if_neg failed]
  · rw [sendLoop_of_empty nonempty, sendPass, if_neg nonempty]

/-- Every way a pass can end: with no bytes left, the loop ends `Ok` and
nothing changes; a `msgsnd` that waits changes nothing either; a failed
`msgsnd` ends it `Err(1)` and changes no queue; or the first frame the bytes
need joins the back of the queue, which exists, and the loop goes on with the
bytes after that frame. The pid never changes. -/
theorem sendPass_cases (self : MessageChannel) (typeId : BitVec 16) (receiveChan : BitVec 32)
    (data : List UInt8) (w : World) :
    (data = [] ∧ sendPass self typeId receiveChan data w = .stop (.ok ()) w) ∨
    sendPass self typeId receiveChan data w = .waits ∨
    (∃ w', data ≠ [] ∧ sendPass self typeId receiveChan data w = .stop (.error 1) w' ∧
      w'.kernel = w.kernel ∧ w'.pid = w.pid) ∨
    (∃ q f w', data ≠ [] ∧ sendPass self typeId receiveChan data w =
        .next (data.drop (min data.length MESSAGE_LENGTH)) w' ∧
      w.kernel.find? self.msqId = some q ∧
      pagedFrames w.pid typeId receiveChan data =
        f :: pagedFrames w.pid typeId receiveChan (data.drop (min data.length MESSAGE_LENGTH)) ∧
      w'.kernel = w.kernel.setMessages self.msqId (q.messages ++ [f.toQueued]) ∧ w'.pid = w.pid) := by
  by_cases nonempty : data.length > 0
  · right
    have someData := List.ne_nil_of_length_pos nonempty
    rcases sent : sendNext self typeId receiveChan data w with _ | ⟨ret, w₁⟩
    · left
      rw [sendPass, if_pos nonempty, sent]
    · right
      by_cases failed : ret = -1
      · left
        subst failed
        obtain ⟨e, rfl⟩ := sendPagedMessage_failed sent
        refine ⟨_, someData, by rw [sendPass, if_pos nonempty, sent]; rfl, ?_, ?_⟩ <;>
          simp [World.eprintln, World.nextFault_snd]
      · right
        have zero : ret = 0 := Classical.not_not.mp fun nonzero => failed (Libc.msgsnd_failed sent nonzero).1
        subst zero
        have accepted := sent
        unfold sendNext sendPagedMessage at accepted
        obtain ⟨-, q, found, rfl⟩ := Libc.msgsnd_eq_zero accepted
        refine ⟨q, _, _, someData, by rw [sendPass, if_pos nonempty, sent]; exact if_neg failed, found,
          pagedFrames_of_pos _ _ _ nonempty, ?_, by simp [World.nextFault_snd]⟩
        simp [World.nextFault_snd, Message.toQueued, List.take_of_length_le (Nat.le_of_eq (Data.length_toBytes _))]
  · left
    exact ⟨List.eq_nil_of_length_eq_zero (by omega), by rw [sendPass, if_neg nonempty]⟩

/-- With no verdict against its calls and its queue there, a pass never fails:
it ends the loop `Ok` when no bytes are left, waits when the queue has no room
for a frame, and otherwise sends the next frame, keeping the queue and the
verdicts as they were. -/
theorem sendPass_of_live {self : MessageChannel} {typeId : BitVec 16} {receiveChan : BitVec 32}
    {data : List UInt8} {w : World} {q : MsgQueue} (noFault : w.faults = [])
    (found : w.kernel.find? self.msqId = some q) :
    (data = [] ∧ sendPass self typeId receiveChan data w = .stop (.ok ()) w) ∨
    (data ≠ [] ∧ ¬q.fits sizeOfData ∧ sendPass self typeId receiveChan data w = .waits) ∨
    ∃ w', data ≠ [] ∧ q.fits sizeOfData ∧
      sendPass self typeId receiveChan data w = .next (data.drop (min data.length MESSAGE_LENGTH)) w' ∧
      w'.faults = [] ∧ (w'.kernel.find? self.msqId).isSome := by
  by_cases nonempty : data.length > 0
  · right
    have someData := List.ne_nil_of_length_pos nonempty
    obtain ⟨f, answer⟩ := @sendNext_of_live self typeId receiveChan data w q noFault found
    by_cases room : q.fits sizeOfData
    · rw [if_pos room] at answer
      exact .inr ⟨_, someData, room,
        by rw [sendPass, if_pos nonempty, answer]; exact if_neg (show (0 : BitVec 32) ≠ -1 by decide),
        by exact noFault,
        by simp [found]⟩
    · rw [if_neg room] at answer
      exact .inl ⟨someData, room, by rw [sendPass, if_pos nonempty, answer]⟩
  · exact .inl ⟨List.eq_nil_of_length_eq_zero (by omega), by rw [sendPass, if_neg nonempty]⟩

/-! ### Senders sharing one table -/

/-- What a process keeps to itself: all of its `World` but the kernel's table,
which every process shares. -/
structure Proc where
  pid : UInt32
  errno : Errno
  stderr : List String
  faults : List (Option Errno)

/-- The world a process sees over the shared table. -/
def Proc.world (p : Proc) (k : Kernel) : World := ⟨p.pid, k, p.errno, p.stderr, p.faults⟩

/-- A process's own part of a world. -/
def Proc.ofWorld (w : World) : Proc := ⟨w.pid, w.errno, w.stderr, w.faults⟩

@[simp] theorem Proc.world_pid (p : Proc) (k : Kernel) : (p.world k).pid = p.pid := rfl

@[simp] theorem Proc.world_kernel (p : Proc) (k : Kernel) : (p.world k).kernel = k := rfl

@[simp] theorem Proc.ofWorld_pid (w : World) : (Proc.ofWorld w).pid = w.pid := rfl

@[simp] theorem Proc.world_ofWorld (w : World) : (Proc.ofWorld w).world w.kernel = w := rfl

/-- Whether a queued message is a frame from process `pid`: of type
`MESSAGE_TYPE`, with `pid` in its `response_pid` field. -/
def isFrameOf (pid : UInt32) (m : QueuedMessage) : Bool :=
  m.mType == MESSAGE_TYPE && (Data.ofBytes m.mText).responsePid == pid

/-- A frame of a payload sent by `owner` is a frame of `pid` exactly when
`pid` is `owner`. -/
theorem isFrameOf_of_mem_pagedFrames {owner : UInt32} {typeId : BitVec 16} {receiveChan : BitVec 32}
    {data : List UInt8} {f : Message} (mem : f ∈ pagedFrames owner typeId receiveChan data) (pid : UInt32) :
    isFrameOf pid f.toQueued = (owner == pid) := by
  obtain ⟨typed, -, -, own⟩ := (pagedFrames_framing _ _ _ _).header f mem
  simp [isFrameOf, Message.toQueued, typed, own]

/-- A process in the paging loop of a `send_message`: the queue it sends to,
the header of its frames, its own state, the loop's `data` (the bytes not sent
yet), and the loop's result once it has ended. -/
structure Sender where
  channel : MessageChannel
  typeId : BitVec 16
  receiveChan : BitVec 32
  proc : Proc
  data : List UInt8
  result : Option (Except (BitVec 32) Unit)

namespace Sender

/-- The sender takes the next pass of its loop over the shared table. A pass
that waits for room changes nothing: the call sleeps, and runs again when the
sender is next scheduled. Once its loop has ended the sender does nothing. -/
def pass (s : Sender) (k : Kernel) : Sender × Kernel :=
  match s.result with
  | some _ => (s, k)
  | none =>
    match sendPass s.channel s.typeId s.receiveChan s.data (s.proc.world k) with
    | .next data w => ({ s with proc := Proc.ofWorld w, data }, w.kernel)
    | .stop r w => ({ s with proc := Proc.ofWorld w, result := some r }, w.kernel)
    | .waits => (s, k)

/-- The frames the sender's bytes left still need. -/
def frames (s : Sender) : List Message := pagedFrames s.proc.pid s.typeId s.receiveChan s.data

/-- Two states of one sender's loop: the same queue, header and pid. -/
structure SameLoop (s s' : Sender) : Prop where
  channel : s'.channel = s.channel
  typeId : s'.typeId = s.typeId
  receiveChan : s'.receiveChan = s.receiveChan
  pid : s'.proc.pid = s.proc.pid

theorem SameLoop.refl (s : Sender) : SameLoop s s := ⟨rfl, rfl, rfl, rfl⟩

theorem SameLoop.trans {s s' s'' : Sender} (h : SameLoop s s') (h' : SameLoop s' s'') : SameLoop s s'' :=
  ⟨h'.channel.trans h.channel, h'.typeId.trans h.typeId, h'.receiveChan.trans h.receiveChan, h'.pid.trans h.pid⟩

/-- `frames` reads the loop's header, its pid and its bytes, nothing else. -/
theorem frames_eq {s s' : Sender} (same : SameLoop s s') (data : s'.data = s.data) : s'.frames = s.frames := by
  simp only [frames, same.pid, same.typeId, same.receiveChan, data]

/-- How a loop's result and its bytes agree: a loop that ended `Ok` has no
bytes left, one that ended `Err` still had bytes to send. -/
structure Settled (s : Sender) : Prop where
  ok : s.result = some (.ok ()) → s.data = []
  error : ∀ e, s.result = some (.error e) → s.data ≠ []

/-- What one pass of a sender does: it stays the same loop and keeps `Settled`;
and either the table and its bytes stay as they were, or, while its loop runs,
the first frame its bytes need joins the back of its queue, which exists, and
the bytes after that frame are left. -/
theorem pass_spec (s : Sender) (k : Kernel) (settled : s.Settled) :
    SameLoop s (s.pass k).1 ∧ (s.pass k).1.Settled ∧
      (((s.pass k).2 = k ∧ (s.pass k).1.data = s.data) ∨
        ∃ q f, s.result = none ∧ k.find? s.channel.msqId = some q ∧
          s.frames = f :: (s.pass k).1.frames ∧
          (s.pass k).2 = k.setMessages s.channel.msqId (q.messages ++ [f.toQueued])) := by
  unfold pass
  rcases ended : s.result with _ | r
  · dsimp only
    rcases sendPass_cases s.channel s.typeId s.receiveChan s.data (s.proc.world k) with
      ⟨noData, stop⟩ | waits | ⟨w', someData, stop, kernel, pid⟩ | ⟨q, f, w', -, next, found, first, kernel, pid⟩
    · rw [stop]
      exact ⟨⟨rfl, rfl, rfl, rfl⟩, ⟨fun _ => noData, fun _ failed => nomatch failed⟩, .inl ⟨rfl, rfl⟩⟩
    · rw [waits]
      exact ⟨SameLoop.refl s, settled, .inl ⟨rfl, rfl⟩⟩
    · rw [stop]
      refine ⟨⟨rfl, rfl, rfl, pid⟩, ⟨(nomatch ·), fun _ _ => someData⟩, .inl ⟨kernel, rfl⟩⟩
    · rw [next]
      refine ⟨⟨rfl, rfl, rfl, pid⟩, ⟨(nomatch ·), fun _ unended => nomatch unended⟩,
        .inr ⟨q, f, rfl, found, ?_, kernel⟩⟩
      simpa only [frames, Proc.ofWorld_pid, pid, Proc.world_pid] using first
  · exact ⟨SameLoop.refl s, settled, .inl ⟨rfl, rfl⟩⟩

/-- A pass keeps every queue of the table. -/
theorem pass_keeps_queues (s : Sender) (k : Kernel) (c : BitVec 32) :
    ((s.pass k).2.find? c).isSome = (k.find? c).isSome := by
  unfold pass
  split
  · rfl
  · rcases sendPass_cases s.channel s.typeId s.receiveChan s.data (s.proc.world k) with
      ⟨-, stop⟩ | waits | ⟨w', -, stop, kernel, -⟩ | ⟨q, f, w', -, next, -, -, kernel, -⟩
    · rw [stop]
      rfl
    · rw [waits]
    · rw [stop]
      dsimp only
      rw [kernel]
      rfl
    · rw [next]
      dsimp only
      rw [kernel]
      simp

/-- With no verdict against its calls and its queue there, a running sender's
pass ends its loop `Ok`, or leaves it running with one page fewer to send when
the queue had room for a frame and as many when it had none; it stays on its
queue and leaves no verdict. -/
theorem pass_progress (s : Sender) (k : Kernel) (running : s.result = none) (noFault : s.proc.faults = [])
    {q : MsgQueue} (found : k.find? s.channel.msqId = some q) :
    (s.pass k).1.proc.faults = [] ∧ (s.pass k).1.channel = s.channel ∧
      ((s.pass k).1.result = some (.ok ()) ∨ (s.pass k).1.result = none ∧
        pageCount (s.pass k).1.data + (if q.fits sizeOfData then 1 else 0) ≤ pageCount s.data) := by
  unfold pass
  rw [running]
  rcases @sendPass_of_live s.channel s.typeId s.receiveChan s.data (s.proc.world k) q noFault found with
    ⟨-, stop⟩ | ⟨-, full, waits⟩ | ⟨w', nonempty, room, next, faults, -⟩
  · rw [stop]
    exact ⟨noFault, rfl, .inl rfl⟩
  · rw [waits]
    exact ⟨noFault, rfl, .inr ⟨running, by rw [if_neg full]; rfl⟩⟩
  · rw [next]
    exact ⟨faults, rfl, .inr ⟨rfl, by rw [if_pos room, pageCount_drop (List.length_pos.mpr nonempty)]⟩⟩

/-- Every frame a sender's bytes need is its own: of type `MESSAGE_TYPE`, with
its pid in `response_pid`. -/
theorem isFrameOf_of_mem_frames {s : Sender} {f : Message} (mem : f ∈ s.frames) (pid : UInt32) :
    isFrameOf pid f.toQueued = (s.proc.pid == pid) :=
  isFrameOf_of_mem_pagedFrames mem pid

end Sender

/-- The messages queued under `msqid`, none when there is no such queue. -/
def queued (k : Kernel) (msqid : BitVec 32) : List QueuedMessage :=
  ((k.find? msqid).map (·.messages)).getD []

theorem queued_setMessages {k : Kernel} {c : BitVec 32} {q : MsgQueue} (found : k.find? c = some q)
    (messages : List QueuedMessage) (a : BitVec 32) :
    queued (k.setMessages c messages) a = if a = c then messages else queued k a := by
  by_cases here : a = c
  · subst here
    simp [queued, found]
  · simp [queued, here]

/-- The shared table, the senders, and what readers have taken off queues so
far, oldest first, each with the queue it came from. -/
structure System where
  kernel : Kernel
  senders : List Sender
  taken : List (BitVec 32 × QueuedMessage)

/-- Who moves next: sender `i` takes one pass of its loop, or a process reads
the queue `msqid` with `msgrcv(msqid, _, msgsz, msgtyp, 0)` for a positive
`msgtyp`, the mode `Kernel.msgrcv` models, as the daemon reads its requests. -/
inductive Action where
  | send (i : Nat)
  | read (msqid : BitVec 32) (msgsz : Nat) (msgtyp : BitVec 64) (positive : 0 < msgtyp.toInt)

namespace System

/-- One move. A read that finds nothing to take, or fails, changes nothing. -/
def act (S : System) : Action → System
  | .send i =>
    match S.senders[i]? with
    | none => S
    | some s =>
      let (s, k) := s.pass S.kernel
      { S with kernel := k, senders := S.senders.set i s }
  | .read msqid msgsz msgtyp _ =>
    match S.kernel.msgrcv msqid msgsz msgtyp with
    | .message m k => { S with kernel := k, taken := S.taken ++ [(msqid, m)] }
    | _ => S

/-- The moves of a schedule, one after another. -/
def run (S : System) : List Action → System
  | [] => S
  | a :: as => (S.act a).run as

/-- Every frame from `pid` that has been on the queue `msqid`: those readers
took, in the order they took them, then those still queued. -/
def framesOf (S : System) (msqid : BitVec 32) (pid : UInt32) : List QueuedMessage :=
  ((S.taken.filter (·.1 == msqid)).map (·.2) ++ queued S.kernel msqid).filter (isFrameOf pid)

/-- A read changes no sender, and moves a message from a queue to what readers
have taken without changing any sender's frames seen in order: the one it
takes is the oldest of its type, so no frame of the same sender was ahead of
it unless the type is not `MESSAGE_TYPE`, and then it is no frame. -/
theorem act_read (S : System) (msqid : BitVec 32) (msgsz : Nat) (msgtyp : BitVec 64) (positive : 0 < msgtyp.toInt) :
    (S.act (.read msqid msgsz msgtyp positive)).senders = S.senders ∧
      ∀ a pid, (S.act (.read msqid msgsz msgtyp positive)).framesOf a pid = S.framesOf a pid := by
  rcases taken : S.kernel.msgrcv msqid msgsz msgtyp with ⟨m, k⟩ | e | _
  · refine ⟨by simp only [act, taken], fun a pid => ?_⟩
    simp only [act, taken]
    obtain ⟨q, other, rest, found, layout, skipped, typed, rfl⟩ := Kernel.msgrcv_layout taken
    have swap : [m].filter (isFrameOf pid) ++ other.filter (isFrameOf pid) =
        other.filter (isFrameOf pid) ++ [m].filter (isFrameOf pid) := by
      by_cases frame : msgtyp = MESSAGE_TYPE
      · have none : other.filter (isFrameOf pid) = [] :=
          List.filter_eq_nil_iff.mpr fun o mem => by simp [isFrameOf, ← frame, skipped o mem]
        rw [none, List.nil_append, List.append_nil]
      · have notFrame : isFrameOf pid m = false := by simp [isFrameOf, typed, frame]
        simp [notFrame]
    by_cases here : a = msqid
    · subst here
      have before : queued S.kernel a = other ++ [m] ++ rest := by simp [queued, found, layout]
      simp only [framesOf, queued_setMessages found, if_true, before, List.filter_append, List.map_append,
        List.filter_singleton, beq_self_eq_true, cond_true, List.map_singleton, List.append_assoc]
      rw [List.filter_singleton] at swap
      rw [← List.append_assoc (bif _ then _ else _), swap, List.append_assoc]
    · simp [framesOf, queued_setMessages found, here, List.filter_append, Ne.symm here]
  all_goals exact ⟨by simp only [act, taken], fun _ _ => by simp only [act, taken]⟩

/-- A sender's move: sender `j`, if there is one, takes its pass, and nothing
else moves. -/
theorem act_send (S : System) (j : Nat) :
    (S.senders[j]? = none ∧ S.act (.send j) = S) ∨
      ∃ s, S.senders[j]? = some s ∧ S.act (.send j) =
        ⟨(s.pass S.kernel).2, S.senders.set j (s.pass S.kernel).1, S.taken⟩ := by
  rcases at_j : S.senders[j]? with _ | s
  · exact .inl ⟨rfl, by simp only [act, at_j]⟩
  · exact .inr ⟨s, rfl, by simp only [act, at_j]⟩

/-- A message put at the back of a queue that exists is seen after every
frame seen so far, and only on that queue. -/
theorem framesOf_append (S : System) {c : BitVec 32} {q : MsgQueue} (found : S.kernel.find? c = some q)
    (m : QueuedMessage) (senders : List Sender) (a : BitVec 32) (pid : UInt32) :
    (⟨S.kernel.setMessages c (q.messages ++ [m]), senders, S.taken⟩ : System).framesOf a pid =
      S.framesOf a pid ++ if a = c ∧ isFrameOf pid m then [m] else [] := by
  by_cases here : a = c
  · subst here
    by_cases frame : isFrameOf pid m <;> simp [framesOf, queued_setMessages found, queued, found, frame]
  · simp [framesOf, queued_setMessages found, here]

/-- How far the senders of `S` have come from `S0`: each sender of `S0` is
still there, the same loop and `Settled`, and on its queue the frames from its
pid are those there at the start followed by the frames `sent`, which, with
the frames its bytes left still need after them, are the frames its bytes
needed at the start. -/
def Tracks (S0 S : System) : Prop :=
  S.senders.length = S0.senders.length ∧ ∀ (i : Nat) (s0 : Sender), S0.senders[i]? = some s0 → ∃ s, S.senders[i]? = some s ∧ Sender.SameLoop s0 s ∧ s.Settled ∧
    ∃ sent : List Message, sent ++ s.frames = s0.frames ∧
      S.framesOf s0.channel.msqId s0.proc.pid = S0.framesOf s0.channel.msqId s0.proc.pid ++ sent.map Message.toQueued

/-- Senders at the top of their loops have come nowhere yet. -/
theorem tracks_start (S0 : System) (start : ∀ s ∈ S0.senders, s.result = none) : Tracks S0 S0 :=
  ⟨rfl, fun _ s0 at0 => ⟨s0, at0, Sender.SameLoop.refl s0,
    ⟨fun ended => by simp [start s0 (List.getElem?_mem at0)] at ended,
      fun _ ended => by simp [start s0 (List.getElem?_mem at0)] at ended⟩, [], rfl, by simp⟩⟩

/-- Senders of distinct pids: two places with one pid are one place. -/
theorem pid_ne {S0 : System} (pids : (S0.senders.map (·.proc.pid)).Nodup) {i j : Nat} {s s' : Sender}
    (at_i : S0.senders[i]? = some s) (at_j : S0.senders[j]? = some s') (apart : i ≠ j) :
    s.proc.pid ≠ s'.proc.pid := fun same =>
  apart (List.getElem?_inj (by simpa using (List.getElem?_eq_some_iff.mp at_i).1) pids
    (by simp [List.getElem?_map, at_i, at_j, same]))

/-- The table and what readers took are all that `framesOf` reads. -/
theorem framesOf_senders (S : System) (senders : List Sender) :
    (⟨S.kernel, senders, S.taken⟩ : System).framesOf = S.framesOf := rfl

/-- The sender that moves keeps `Tracks`: a pass that sends a frame adds it to
what it has sent, and to what has been seen from its pid on its queue. -/
theorem tracks_pass_self {S0 S : System} (j : Nat) {s0 s : Sender} (same : Sender.SameLoop s0 s) (settled : s.Settled) {sent : List Message} (frames : sent ++ s.frames = s0.frames)
    (seen : S.framesOf s0.channel.msqId s0.proc.pid =
      S0.framesOf s0.channel.msqId s0.proc.pid ++ sent.map Message.toQueued) :
    Sender.SameLoop s0 (s.pass S.kernel).1 ∧ (s.pass S.kernel).1.Settled ∧
      ∃ sent' : List Message, sent' ++ (s.pass S.kernel).1.frames = s0.frames ∧
        (⟨(s.pass S.kernel).2, S.senders.set j (s.pass S.kernel).1, S.taken⟩ : System).framesOf
          s0.channel.msqId s0.proc.pid = S0.framesOf s0.channel.msqId s0.proc.pid ++ sent'.map Message.toQueued := by
  obtain ⟨samePass, settledPass, unchanged | ⟨q, f, -, found, first, kernel⟩⟩ := Sender.pass_spec s S.kernel settled
  · refine ⟨same.trans samePass, settledPass, sent, ?_, ?_⟩
    · rw [Sender.frames_eq samePass unchanged.2, frames]
    · rw [unchanged.1, framesOf_senders, seen]
  · refine ⟨same.trans samePass, settledPass, sent ++ [f], ?_, ?_⟩
    · rw [List.append_assoc, List.singleton_append, ← first, frames]
    · have own := Sender.isFrameOf_of_mem_frames (first ▸ List.mem_cons_self f _) s0.proc.pid
      rw [kernel, framesOf_append S found, seen, if_pos ⟨by rw [same.channel], by simp [own, same.pid]⟩]
      simp

/-- A sender that does not move keeps `Tracks`: another sender's frame carries
another pid. -/
theorem tracks_pass_other {S0 S : System} {j : Nat} {s0 sj : Sender} (s : Sender)
    (settled : sj.Settled) (apart : sj.proc.pid ≠ s0.proc.pid) {sent : List Message}
    (seen : S.framesOf s0.channel.msqId s0.proc.pid =
      S0.framesOf s0.channel.msqId s0.proc.pid ++ sent.map Message.toQueued) :
    (⟨(sj.pass S.kernel).2, S.senders.set j s, S.taken⟩ : System).framesOf s0.channel.msqId s0.proc.pid =
      S0.framesOf s0.channel.msqId s0.proc.pid ++ sent.map Message.toQueued := by
  obtain ⟨-, -, unchanged | ⟨q, f, -, found, first, kernel⟩⟩ := Sender.pass_spec sj S.kernel settled
  · rw [unchanged.1, framesOf_senders, seen]
  · have other := Sender.isFrameOf_of_mem_frames (first ▸ List.mem_cons_self f _) s0.proc.pid
    rw [kernel, framesOf_append S found, seen, if_neg (by simp [other, apart])]
    simp

/-- One move keeps `Tracks`. -/
theorem tracks_act {S0 S : System} (pids : (S0.senders.map (·.proc.pid)).Nodup) (tracks : Tracks S0 S)
    (a : Action) : Tracks S0 (S.act a) := by
  cases a with
  | read msqid msgsz msgtyp positive =>
    obtain ⟨senders, seen⟩ := act_read S msqid msgsz msgtyp positive
    refine ⟨senders ▸ tracks.1, fun i s0 at0 => ?_⟩
    rw [senders, seen]
    exact tracks.2 i s0 at0
  | send j =>
    rcases act_send S j with ⟨-, same⟩ | ⟨sj, at_j, moved⟩
    · rwa [same]
    · have inS0 : j < S0.senders.length := tracks.1 ▸ (List.getElem?_eq_some_iff.mp at_j).1
      obtain ⟨sj', at_j', sameJ, settledJ, -⟩ := tracks.2 j _ (List.getElem?_eq_getElem inS0)
      rw [at_j] at at_j'
      cases at_j'
      rw [moved]
      refine ⟨by rw [List.length_set, tracks.1], fun i s0 at0 => ?_⟩
      obtain ⟨s, at_i, same, settled, sent, frames, seen⟩ := tracks.2 i s0 at0
      by_cases here : j = i
      · subst here
        rw [at_j] at at_i
        cases at_i
        exact ⟨_, List.getElem?_set_self (List.getElem?_eq_some_iff.mp at_j).1,
          tracks_pass_self j same settled frames seen⟩
      · refine ⟨s, by rw [List.getElem?_set_ne here, at_i], same, settled, sent, frames,
          tracks_pass_other _ settledJ ?_ seen⟩
        rw [sameJ.pid]
        exact pid_ne pids (List.getElem?_eq_getElem inS0) at0 here

/-- `Tracks` holds after every schedule. -/
theorem tracks_run {S0 : System} (pids : (S0.senders.map (·.proc.pid)).Nodup) :
    ∀ (schedule : List Action) (S : System), Tracks S0 S → Tracks S0 (S.run schedule)
  | [], _, tracks => tracks
  | a :: as, S, tracks => tracks_run pids as (S.act a) (tracks_act pids tracks a)

end System

end Paperd.Messaging

namespace Paperd.Messaging

open Paperd.Sysv

/-! ### A sender alone runs the loop -/

namespace Sender

/-- `n` passes of one sender with no other process moving. -/
def passes (s : Sender) (k : Kernel) : Nat → Sender × Kernel
  | 0 => (s, k)
  | n + 1 => (s.pass k).1.passes (s.pass k).2 n

/-- A sender whose pass changes nothing stays as it is. -/
theorem passes_of_still {s : Sender} {k : Kernel} (still : s.pass k = (s, k)) : ∀ n, s.passes k n = (s, k)
  | 0 => rfl
  | n + 1 => by rw [passes, still, passes_of_still still n]

/-- **Passes refine the loop.** A sender scheduled alone from the top of its
loop is, after one pass per frame and one more, in the world `sendLoop` leaves
on its bytes; its loop has ended with a result exactly when `sendLoop` returns
it, and runs on, waiting in `msgsnd`, when `sendLoop` waits. -/
theorem passes_sendLoop (k : Kernel) :
    ∀ (n : Nat) (s : Sender), s.result = none → pageCount s.data < n →
      (s.passes k n).1.proc.world (s.passes k n).2 =
          (sendLoop s.channel s.typeId s.receiveChan s.data (s.proc.world k)).2 ∧
        ∀ r, (s.passes k n).1.result = some r ↔
          (sendLoop s.channel s.typeId s.receiveChan s.data (s.proc.world k)).1 = .returns r
  | 0, _, _, enough => absurd enough (Nat.not_lt_zero _)
  | n + 1, s, start, enough => by
    rw [sendLoop_eq_sendPass]
    rcases sendPass_cases s.channel s.typeId s.receiveChan s.data (s.proc.world k) with
      ⟨-, stop⟩ | waits | ⟨w', -, stop, -⟩ | ⟨q, f, w', someData, next, -⟩
    · have still : (s.pass k).1.pass (s.pass k).2 = s.pass k := by simp only [pass, start, stop]
      simp only [passes, passes_of_still still, stop]
      simp only [pass, start, stop]
      exact ⟨rfl, fun r => by simp⟩
    · have still : s.pass k = (s, k) := by simp only [pass, start, waits]
      simp [passes, still, passes_of_still still, waits, start]
    · have still : (s.pass k).1.pass (s.pass k).2 = s.pass k := by simp only [pass, start, stop]
      simp only [passes, passes_of_still still, stop]
      simp only [pass, start, stop]
      exact ⟨rfl, fun r => by simp⟩
    · have fewer := pageCount_drop (List.length_pos.mpr someData)
      simp only [passes, pass, start, next]
      exact passes_sendLoop w'.kernel n _ rfl (by simp only at fewer ⊢; omega)

end Sender

/-- A client with pid `pid` about to page `bytes` onto the daemon's queue (id
0), expecting no reply, with no verdict against its calls. -/
def client (pid : UInt32) (bytes : List UInt8) : Sender :=
  ⟨⟨0⟩, 0, -1, ⟨pid, .UnknownErrno, [], []⟩, bytes, none⟩

/-- A client with pid 1 about to page a 150-byte request. -/
def bigRequest : Sender := client 1 (List.replicate 150 0x61)

/-- A client with pid 2 about to page the request `{}`. -/
def smallRequest : Sender := client 2 emptyObject.bytes

/-- The two clients beside the daemon's empty queue, id 0 under key `0x50`. -/
def twoClients : System := ⟨Kernel.single 0x50 [], [bigRequest, smallRequest], []⟩

/-- The first client sends a frame, the second its whole request, the daemon
reads one frame, and the first client finishes. -/
def interleaving : List Action :=
  [.send 0, .send 1, .send 1, .read 0 sizeOfData MESSAGE_TYPE (by decide), .send 0, .send 0]

/-! ### Per-sender order, whatever the schedule -/

/-- Where a schedule leaves each sender of `S0`: still there, its result and
bytes in agreement, and the frames seen from its pid on its queue those there
at the start followed by the frames it sent, which come first among the
frames its payload needs. -/
theorem sender_after_run (S0 : System) (pids : (S0.senders.map (·.proc.pid)).Nodup)
    (start : ∀ s ∈ S0.senders, s.result = none) (schedule : List Action) {i : Nat} {s0 : Sender}
    (at0 : S0.senders[i]? = some s0) :
    ∃ s sent, (S0.run schedule).senders[i]? = some s ∧ s.Settled ∧
      (S0.run schedule).framesOf s0.channel.msqId s0.proc.pid =
        S0.framesOf s0.channel.msqId s0.proc.pid ++ sent.map Message.toQueued ∧
      sent ++ pagedFrames s0.proc.pid s0.typeId s0.receiveChan s.data =
        pagedFrames s0.proc.pid s0.typeId s0.receiveChan s0.data := by
  obtain ⟨s, at_i, same, settled, sent, frames, seen⟩ :=
    (System.tracks_run pids schedule S0 (System.tracks_start S0 start)).2 i s0 at0
  refine ⟨s, sent, at_i, settled, seen, ?_⟩
  simpa only [Sender.frames, same.pid, same.typeId, same.receiveChan] using frames

/-- **Per-sender order across every interleaving.** Senders of distinct pids,
each at the top of its paging loop, share the table with readers and move in
any order. After any schedule, on each sender's queue the frames from its pid
(those readers took, then those still queued) are those that were there at
the start followed by frames it sent, in order: none lost, repeated or
reordered; these frames, followed by the frames its bytes left still need,
are the frames its whole payload needs; and a sender whose loop ended `Ok` has
sent all of them. -/
theorem senders_keep_order (S0 : System) (pids : (S0.senders.map (·.proc.pid)).Nodup)
    (start : ∀ s ∈ S0.senders, s.result = none) (schedule : List Action) {i : Nat} {s0 : Sender}
    (at0 : S0.senders[i]? = some s0) :
    ∃ s sent, (S0.run schedule).senders[i]? = some s ∧
      (S0.run schedule).framesOf s0.channel.msqId s0.proc.pid =
        S0.framesOf s0.channel.msqId s0.proc.pid ++ sent.map Message.toQueued ∧
      sent ++ pagedFrames s0.proc.pid s0.typeId s0.receiveChan s.data =
        pagedFrames s0.proc.pid s0.typeId s0.receiveChan s0.data ∧
      (s.result = some (.ok ()) → sent = pagedFrames s0.proc.pid s0.typeId s0.receiveChan s0.data) := by
  obtain ⟨s, sent, at_i, settled, seen, frames⟩ := sender_after_run S0 pids start schedule at0
  refine ⟨s, sent, at_i, seen, frames, fun ended => ?_⟩
  rwa [settled.ok ended, pagedFrames_nil, List.append_nil] at frames

/-- The two clients interleaved, as seen from the first. -/
theorem senders_keep_order_two_clients :
    ((twoClients.senders.map (·.proc.pid)).Nodup ∧ (∀ s ∈ twoClients.senders, s.result = none) ∧
      twoClients.senders[0]? = some bigRequest) ∧
    ∃ s sent, (twoClients.run interleaving).senders[0]? = some s ∧
      (twoClients.run interleaving).framesOf bigRequest.channel.msqId bigRequest.proc.pid =
        twoClients.framesOf bigRequest.channel.msqId bigRequest.proc.pid ++ sent.map Message.toQueued ∧
      sent ++ pagedFrames bigRequest.proc.pid bigRequest.typeId bigRequest.receiveChan s.data =
        pagedFrames bigRequest.proc.pid bigRequest.typeId bigRequest.receiveChan bigRequest.data ∧
      (s.result = some (.ok ()) →
        sent = pagedFrames bigRequest.proc.pid bigRequest.typeId bigRequest.receiveChan bigRequest.data) := by
  have pids : (twoClients.senders.map (·.proc.pid)).Nodup := by decide
  have start : ∀ s ∈ twoClients.senders, s.result = none := by
    simp [twoClients, bigRequest, smallRequest, client]
  exact ⟨⟨pids, start, rfl⟩, senders_keep_order twoClients pids start interleaving rfl⟩

/-! ### What a reader that sorts by pid reassembles -/

/-- Bytes to send need at least one frame. -/
theorem length_pagedFrames_pos (pid : UInt32) (typeId : BitVec 16) (receiveChan : BitVec 32)
    {data : List UInt8} (nonempty : data ≠ []) : 0 < (pagedFrames pid typeId receiveChan data).length := by
  have := List.length_pos.mpr nonempty
  simp only [length_pagedFrames, pageCount, MESSAGE_LENGTH]
  omega

/-- A frame of a payload fits the 100-byte array. -/
theorem declared_le_of_mem_pagedFrames {pid : UInt32} {typeId : BitVec 16} {receiveChan : BitVec 32}
    {data : List UInt8} {f : Message} (mem : f ∈ pagedFrames pid typeId receiveChan data) :
    Reassembly.declared f.data ≤ MESSAGE_LENGTH := by
  rw [Reassembly.declared, (pagedFrames_framing pid typeId receiveChan data).declared f mem, ← f.data.message_size]
  exact List.length_take_le' _ _

/-- Frame `k` of a payload is final exactly when it is the last. -/
theorem final_getElem_pagedFrames (pid : UInt32) (typeId : BitVec 16) (receiveChan : BitVec 32)
    (data : List UInt8) (k : Nat) (h : k < (pagedFrames pid typeId receiveChan data).length) :
    Reassembly.final (pagedFrames pid typeId receiveChan data)[k].data = true ↔
      k + 1 = (pagedFrames pid typeId receiveChan data).length := by
  rw [Reassembly.final, beq_iff_eq]
  exact (pagedFrames_framing pid typeId receiveChan data).final k h

/-- The frames of a non-empty payload, fed in order to the machine, give the
payload. -/
theorem run_pagedFrames (pid : UInt32) (typeId : BitVec 16) (receiveChan : BitVec 32)
    {data : List UInt8} (nonempty : data ≠ []) (bytes : List UInt8) :
    Reassembly.run (.collecting bytes) ((pagedFrames pid typeId receiveChan data).map (·.data)) =
      (.done (bytes ++ data), []) := by
  have framing := pagedFrames_framing pid typeId receiveChan data
  have run := Reassembly.run_frames bytes [] ((pagedFrames pid typeId receiveChan data).map (·.data))
    (by simpa [← List.length_pos] using length_pagedFrames_pos pid typeId receiveChan nonempty)
    (fun d mem => by
      obtain ⟨f, inFrames, rfl⟩ := List.mem_map.mp mem
      exact declared_le_of_mem_pagedFrames inFrames)
    (fun k h => by simpa using final_getElem_pagedFrames pid typeId receiveChan data k (by simpa using h))
  rw [List.append_nil, List.map_map, Function.comp_def] at run
  rw [run, framing.payloads]

/-- The frames of a payload before some later ones, fed in order to the
machine, leave it collecting the bytes they carry, which the bytes of the later
frames complete to the payload. -/
theorem run_sent {pid : UInt32} {typeId : BitVec 16} {receiveChan : BitVec 32} {sent later : List Message}
    {data : List UInt8} (sentFirst : sent ++ later = pagedFrames pid typeId receiveChan data)
    (unfinished : later ≠ []) :
    Reassembly.run (.collecting []) (sent.map (·.data)) = (.collecting (sent.map (·.data.payload)).flatten, []) ∧
      (sent.map (·.data.payload)).flatten ++ (later.map (·.data.payload)).flatten = data := by
  have more := List.length_pos.mpr unfinished
  have notFinal : ∀ d ∈ sent.map (·.data), Reassembly.declared d ≤ MESSAGE_LENGTH ∧ Reassembly.final d = false := by
    intro d mem
    obtain ⟨f, inSent, rfl⟩ := List.mem_map.mp mem
    obtain ⟨k, h, rfl⟩ := List.getElem_of_mem inSent
    have inData : sent[k] ∈ pagedFrames pid typeId receiveChan data := sentFirst ▸ List.mem_append_left _ inSent
    have bound : k < (pagedFrames pid typeId receiveChan data).length := by
      rw [← sentFirst, List.length_append]
      omega
    have atK : sent[k] = (pagedFrames pid typeId receiveChan data)[k] := by
      simp only [← sentFirst, List.getElem_append_left h]
    refine ⟨declared_le_of_mem_pagedFrames inData, ?_⟩
    rw [atK, Bool.eq_false_iff, ne_eq, final_getElem_pagedFrames]
    rw [← sentFirst, List.length_append]
    omega
  refine ⟨by rw [Reassembly.run_unfinished [] _ notFinal, List.nil_append, List.map_map]; rfl, ?_⟩
  have payloads := congrArg (fun frames : List Message => (frames.map (·.data.payload)).flatten) sentFirst
  simp only [List.map_append, List.flatten_append, (pagedFrames_framing pid typeId receiveChan data).payloads] at payloads
  simpa [List.map_map, Function.comp_def] using payloads

/-- The frames seen from a sender, as a reader finds them in the bytes. -/
theorem data_toQueued (sent : List Message) :
    (sent.map Message.toQueued).map (Data.ofBytes ·.mText) = sent.map (·.data) := by
  simp [Message.toQueued, Function.comp_def]

/-- **A reader that sorts frames by pid reads every finished request, and
never completes a failed one.** Under the assumptions of per-sender order above,
for a sender with bytes to send and no frame from its pid on its queue at the
start: once its loop has ended `Ok`, the frames seen from its pid, fed in
order to the reassembly machine, give exactly its payload with nothing left
over; once it has ended `Err`, the machine is still collecting, holding the
bytes sent before the failure, which with the bytes the loop had left make up
the payload. -/
theorem demultiplexed_requests (S0 : System) (pids : (S0.senders.map (·.proc.pid)).Nodup)
    (start : ∀ s ∈ S0.senders, s.result = none) (schedule : List Action) {i : Nat} {s0 : Sender}
    (at0 : S0.senders[i]? = some s0) (fresh : S0.framesOf s0.channel.msqId s0.proc.pid = [])
    (nonempty : s0.data ≠ []) :
    ∃ s, (S0.run schedule).senders[i]? = some s ∧
      (s.result = some (.ok ()) →
        Reassembly.run (.collecting []) (((S0.run schedule).framesOf s0.channel.msqId s0.proc.pid).map
          (Data.ofBytes ·.mText)) = (.done s0.data, [])) ∧
      ∀ e, s.result = some (.error e) → ∃ bytes,
        Reassembly.run (.collecting []) (((S0.run schedule).framesOf s0.channel.msqId s0.proc.pid).map
          (Data.ofBytes ·.mText)) = (.collecting bytes, []) ∧ bytes ++ s.data = s0.data := by
  obtain ⟨s, sent, at_i, settled, seen, frames⟩ := sender_after_run S0 pids start schedule at0
  rw [fresh, List.nil_append] at seen
  refine ⟨s, at_i, fun ended => ?_, fun e failed => ?_⟩
  · rw [settled.ok ended, pagedFrames_nil, List.append_nil] at frames
    rw [seen, data_toQueued, frames]
    exact run_pagedFrames _ _ _ nonempty []
  · rw [seen, data_toQueued]
    have left := settled.error e failed
    obtain ⟨run, rest⟩ := run_sent frames (List.ne_nil_of_length_pos (length_pagedFrames_pos _ _ _ left))
    rw [(pagedFrames_framing _ _ _ s.data).payloads] at rest
    exact ⟨_, run, rest⟩

/-- The two clients interleaved, the first one's request read back by pid. -/
theorem demultiplexed_requests_two_clients :
    ((twoClients.senders.map (·.proc.pid)).Nodup ∧ (∀ s ∈ twoClients.senders, s.result = none) ∧
      twoClients.senders[0]? = some bigRequest ∧
      twoClients.framesOf bigRequest.channel.msqId bigRequest.proc.pid = [] ∧ bigRequest.data ≠ []) ∧
    ∃ s, (twoClients.run interleaving).senders[0]? = some s ∧
      (s.result = some (.ok ()) →
        Reassembly.run (.collecting []) (((twoClients.run interleaving).framesOf bigRequest.channel.msqId
          bigRequest.proc.pid).map (Data.ofBytes ·.mText)) = (.done bigRequest.data, [])) ∧
      ∀ e, s.result = some (.error e) → ∃ bytes,
        Reassembly.run (.collecting []) (((twoClients.run interleaving).framesOf bigRequest.channel.msqId
          bigRequest.proc.pid).map (Data.ofBytes ·.mText)) = (.collecting bytes, []) ∧
          bytes ++ s.data = bigRequest.data := by
  have pids : (twoClients.senders.map (·.proc.pid)).Nodup := by decide
  have start : ∀ s ∈ twoClients.senders, s.result = none := by
    simp [twoClients, bigRequest, smallRequest, client]
  have fresh : twoClients.framesOf bigRequest.channel.msqId bigRequest.proc.pid = [] := by
    simp [System.framesOf, twoClients, queued, Kernel.find?, Kernel.single, bigRequest, client, List.lookup_cons]
  have nonempty : bigRequest.data ≠ [] := by simp [bigRequest, client]
  exact ⟨⟨pids, start, rfl, fresh, nonempty⟩,
    demultiplexed_requests twoClients pids start interleaving rfl fresh nonempty⟩

/-! ### Every send completes once it finds room -/

/-- Whether the move is a pass of sender `i`. -/
def Action.isSendOf (i : Nat) : Action → Bool
  | .send j => j == i
  | .read .. => false

namespace System

/-- Whether sender `i`'s queue is there with room for one more frame. -/
def hasRoom (S : System) (i : Nat) : Bool :=
  match S.senders[i]? with
  | some s =>
    match S.kernel.find? s.channel.msqId with
    | some q => decide (q.fits sizeOfData)
    | none => false
  | none => false

/-- How many passes sender `i` takes in a schedule from `S` that find room on
its queue for a frame. -/
def roomyPasses (i : Nat) : System → List Action → Nat
  | _, [] => 0
  | S, a :: as => (if a.isSendOf i && S.hasRoom i then 1 else 0) + roomyPasses i (S.act a) as

/-- What sender `i` has still to do: a pass per page left and one more to end
its loop, nothing once its loop has ended. -/
def toDo (S : System) (i : Nat) : Nat :=
  match S.senders[i]? with
  | some s =>
    match s.result with
    | none => pageCount s.data + 1
    | some _ => 0
  | none => 0

/-- Sender `i` is on its way to `Ok`: its loop runs or has ended `Ok`, on the
queue `c`, which is there, with no verdict against its calls. -/
def Unblocked (c : BitVec 32) (i : Nat) (S : System) : Prop :=
  ∃ s, S.senders[i]? = some s ∧ s.channel.msqId = c ∧ s.proc.faults = [] ∧
    (s.result = none ∨ s.result = some (.ok ())) ∧ (S.kernel.find? c).isSome

/-- A read keeps every queue of the table. -/
theorem act_read_keeps (S : System) (msqid : BitVec 32) (msgsz : Nat) (msgtyp : BitVec 64)
    (positive : 0 < msgtyp.toInt) (c : BitVec 32) :
    ((S.act (.read msqid msgsz msgtyp positive)).kernel.find? c).isSome = (S.kernel.find? c).isSome := by
  rcases taken : S.kernel.msgrcv msqid msgsz msgtyp with ⟨m, k⟩ | e | _
  · have acted : S.act (.read msqid msgsz msgtyp positive) = ⟨k, S.senders, S.taken ++ [(msqid, m)]⟩ := by
      simp only [act, taken]
    obtain ⟨q, -, -, -, removed⟩ := Kernel.msgrcv_eq_message taken
    rw [acted, removed]
    simp
  · simp only [act, taken]
  · simp only [act, taken]

/-- Sender `i`'s own pass keeps it unblocked, and takes one off what it has to
do when it finds room for a frame; a pass that finds the queue full waits and
changes nothing. -/
theorem unblocked_own {c : BitVec 32} {i : Nat} {S : System} (unblocked : Unblocked c i S) :
    Unblocked c i (S.act (.send i)) ∧ toDo (S.act (.send i)) i ≤ toDo S i - (if S.hasRoom i then 1 else 0) := by
  obtain ⟨s, at_i, chan, noFault, state, live⟩ := unblocked
  obtain ⟨q, found⟩ := Option.isSome_iff_exists.mp live
  have moved : S.act (.send i) = ⟨(s.pass S.kernel).2, S.senders.set i (s.pass S.kernel).1, S.taken⟩ := by
    simp only [act, at_i]
  have at_i' : (S.act (.send i)).senders[i]? = some (s.pass S.kernel).1 := by
    rw [moved]
    exact List.getElem?_set_self (List.getElem?_eq_some_iff.mp at_i).1
  have keeps : ((S.act (.send i)).kernel.find? c).isSome := by
    rw [moved]
    exact (Sender.pass_keeps_queues s S.kernel c).trans live
  have room : S.hasRoom i = decide (q.fits sizeOfData) := by simp only [hasRoom, at_i, chan, found]
  rcases state with running | ended
  · obtain ⟨faults, channel, progress⟩ := Sender.pass_progress s S.kernel running noFault (chan ▸ found)
    refine ⟨⟨_, at_i', channel.symm ▸ chan, faults, progress.symm.imp And.left id, keeps⟩, ?_⟩
    rcases progress with ok | ⟨going, fewer⟩
    · simp only [toDo, at_i', ok, Nat.zero_le]
    · simp only [toDo, at_i', at_i, going, running, room]
      by_cases fits : q.fits sizeOfData <;> simp only [decide_eq_true_eq, fits, ↓reduceIte] at fewer ⊢ <;> omega
  · have still : s.pass S.kernel = (s, S.kernel) := by simp only [Sender.pass, ended]
    rw [still] at at_i'
    exact ⟨⟨s, at_i', chan, noFault, .inr ended, keeps⟩, by simp only [toDo, at_i', ended, Nat.zero_le]⟩

/-- Every other move, a read or another sender's pass, keeps sender `i` as it
is and its queue there. -/
theorem unblocked_other {c : BitVec 32} {i : Nat} {S : System} (unblocked : Unblocked c i S) {a : Action}
    (notOwn : a.isSendOf i = false) : Unblocked c i (S.act a) ∧ toDo (S.act a) i = toDo S i := by
  obtain ⟨s, at_i, chan, noFault, state, live⟩ := unblocked
  have kept : (S.act a).senders[i]? = some s ∧ ((S.act a).kernel.find? c).isSome := by
    cases a with
    | read msqid msgsz msgtyp positive =>
      exact ⟨(act_read S msqid msgsz msgtyp positive).1 ▸ at_i, by rw [act_read_keeps]; exact live⟩
    | send j =>
      have own : j ≠ i := by simpa [Action.isSendOf] using notOwn
      rcases act_send S j with ⟨-, unchanged⟩ | ⟨s', -, moved⟩
      · rw [unchanged]
        exact ⟨at_i, live⟩
      · rw [moved, List.getElem?_set_ne own]
        exact ⟨at_i, (Sender.pass_keeps_queues s' S.kernel c).trans live⟩
  exact ⟨⟨s, kept.1, chan, noFault, state, kept.2⟩, by simp only [toDo, kept.1, at_i]⟩

/-- One move keeps sender `i` unblocked, and its own pass, when it finds room
for a frame, takes one off what it has to do. -/
theorem unblocked_act {c : BitVec 32} {i : Nat} {S : System} (unblocked : Unblocked c i S) (a : Action) :
    Unblocked c i (S.act a) ∧ toDo (S.act a) i ≤ toDo S i - (if a.isSendOf i && S.hasRoom i then 1 else 0) := by
  by_cases own : a = .send i
  · subst own
    have mine : (Action.send i).isSendOf i = true := beq_self_eq_true i
    rw [mine, Bool.true_and]
    exact unblocked_own unblocked
  · have notOwn : a.isSendOf i = false := by
      cases a <;> simp_all [Action.isSendOf]
    obtain ⟨next, same⟩ := unblocked_other unblocked notOwn
    exact ⟨next, by rw [same, notOwn, Bool.false_and]; exact Nat.le_refl _⟩

/-- Every schedule keeps sender `i` unblocked and takes one off what it has to
do for each of its passes that finds room. -/
theorem unblocked_run {c : BitVec 32} {i : Nat} :
    ∀ (schedule : List Action) (S : System), Unblocked c i S →
      Unblocked c i (S.run schedule) ∧ toDo (S.run schedule) i ≤ toDo S i - roomyPasses i S schedule
  | [], _, unblocked => ⟨unblocked, Nat.le_refl _⟩
  | a :: as, S, unblocked => by
    obtain ⟨next, step⟩ := unblocked_act unblocked a
    obtain ⟨final, rest⟩ := unblocked_run as (S.act a) next
    exact ⟨final, by rw [run, roomyPasses]; omega⟩

/-- **Every send completes once it finds room.** A client at the top of its
paging loop, with no verdict against its calls and its queue there, shares the
table with any number of other senders and with processes reading any queue.
In every interleaving in which more of its passes than its bytes have pages
find room on its queue for a frame, its loop has ended `Ok`: a pass that finds
the queue full waits and changes nothing, and no other process's move can fail
it. -/
theorem send_completes_interleaved (S0 : System) {i : Nat} {s0 : Sender} (at0 : S0.senders[i]? = some s0)
    (start : s0.result = none) (noFault : s0.proc.faults = []) (live : (S0.kernel.find? s0.channel.msqId).isSome)
    (schedule : List Action) (enough : pageCount s0.data < roomyPasses i S0 schedule) :
    ∃ s, (S0.run schedule).senders[i]? = some s ∧ s.result = some (.ok ()) := by
  obtain ⟨⟨s, at_i, -, -, state, -⟩, left⟩ := unblocked_run schedule S0 ⟨s0, at0, rfl, noFault, .inl start, live⟩
  refine ⟨s, at_i, state.resolve_left fun running => ?_⟩
  simp only [toDo, at_i, at0, running, start] at left
  omega

end System

/-- The first client of the two takes three passes in the interleaving, each
finding room, one more than its 150 bytes have pages, and its loop has ended
`Ok`. -/
theorem send_completes_interleaved_two_clients :
    pageCount bigRequest.data < System.roomyPasses 0 twoClients interleaving ∧
      ∃ s, (twoClients.run interleaving).senders[0]? = some s ∧ s.result = some (.ok ()) :=
  have enough : pageCount bigRequest.data < System.roomyPasses 0 twoClients interleaving := by
    set_option maxRecDepth 20000 in decide
  ⟨enough, @System.send_completes_interleaved twoClients 0 bigRequest rfl rfl rfl rfl interleaving enough⟩

/-- **Every request is read whole.** Senders of distinct pids, each at the top
of its paging loop, share the table with readers and move in any order. Take
one with bytes to send, no verdict against its calls, its queue there and no
frame from its pid on it at the start. In every schedule in which it takes
more passes than its bytes have pages, a reader that sorts the frames on its
queue by pid and feeds them to the reassembly machine reads exactly its
payload, with nothing left over. -/
theorem request_read_whole (S0 : System) (pids : (S0.senders.map (·.proc.pid)).Nodup)
    (start : ∀ s ∈ S0.senders, s.result = none) (schedule : List Action) {i : Nat} {s0 : Sender}
    (at0 : S0.senders[i]? = some s0) (fresh : S0.framesOf s0.channel.msqId s0.proc.pid = [])
    (nonempty : s0.data ≠ []) (noFault : s0.proc.faults = []) (live : (S0.kernel.find? s0.channel.msqId).isSome)
    (enough : pageCount s0.data < System.roomyPasses i S0 schedule) :
    Reassembly.run (.collecting []) (((S0.run schedule).framesOf s0.channel.msqId s0.proc.pid).map
      (Data.ofBytes ·.mText)) = (.done s0.data, []) := by
  have running := start s0 (List.getElem?_mem at0)
  obtain ⟨⟨s, at_i, -, -, state, -⟩, left⟩ :=
    System.unblocked_run schedule S0 ⟨s0, at0, rfl, noFault, .inl running, live⟩
  have ended : s.result = some (.ok ()) := state.resolve_left fun going => by
    simp only [System.toDo, at_i, at0, going, running] at left
    omega
  obtain ⟨s', sent, at_i', settled, seen, frames⟩ := sender_after_run S0 pids start schedule at0
  rw [at_i] at at_i'
  cases at_i'
  rw [settled.ok ended, pagedFrames_nil, List.append_nil] at frames
  rw [seen, fresh, List.nil_append, data_toQueued, frames]
  exact run_pagedFrames _ _ _ nonempty []

/-- In the interleaving, the daemon sorting by pid reads the first client's
150 bytes whole. -/
theorem request_read_whole_two_clients :
    pageCount bigRequest.data < System.roomyPasses 0 twoClients interleaving ∧
      Reassembly.run (.collecting []) (((twoClients.run interleaving).framesOf bigRequest.channel.msqId
        bigRequest.proc.pid).map (Data.ofBytes ·.mText)) = (.done bigRequest.data, []) :=
  have pids : (twoClients.senders.map (·.proc.pid)).Nodup := by decide
  have start : ∀ s ∈ twoClients.senders, s.result = none := by
    simp [twoClients, bigRequest, smallRequest, client]
  have fresh : twoClients.framesOf bigRequest.channel.msqId bigRequest.proc.pid = [] := by
    simp [System.framesOf, twoClients, queued, Kernel.find?, Kernel.single, bigRequest, client, List.lookup_cons]
  have nonempty : bigRequest.data ≠ [] := by simp [bigRequest, client]
  have enough : pageCount bigRequest.data < System.roomyPasses 0 twoClients interleaving := by
    set_option maxRecDepth 20000 in decide
  ⟨enough, request_read_whole twoClients pids start interleaving rfl fresh nonempty rfl rfl enough⟩

/-! ### An interrupted request -/

/-- The first `k` frames of a payload carry its first `k` pages. -/
theorem payloads_take_pagedFrames (pid : UInt32) (typeId : BitVec 16) (receiveChan : BitVec 32)
    (data : List UInt8) {k : Nat} (small : k ≤ pageCount data) :
    (((pagedFrames pid typeId receiveChan data).take k).map (·.data.payload)).flatten =
      data.take (MESSAGE_LENGTH * k) := by
  rw [pagedFrames, ← List.map_take, List.take_range, Nat.min_eq_left small, List.map_map]
  simp only [Function.comp_def, payload_pagedMessage]
  exact flatten_pages_take data k

/-- A reader sorting by `pid` keeps every frame of a payload that `pid` sent. -/
theorem filter_pagedFrames {pid : UInt32} {typeId : BitVec 16} {receiveChan : BitVec 32} {data : List UInt8}
    {frames : List Message} (sub : ∀ f ∈ frames, f ∈ pagedFrames pid typeId receiveChan data) :
    (frames.map Message.toQueued).filter (isFrameOf pid) = frames.map Message.toQueued :=
  List.filter_eq_self.mpr fun m mem => by
    obtain ⟨f, inFrames, rfl⟩ := List.mem_map.mp mem
    rw [isFrameOf_of_mem_pagedFrames (sub f inFrames) pid, beq_self_eq_true]

/-- **An interrupted request runs into the next one.** Frames carry a pid and
no request number. A paging loop whose `msgsnd` fails after `k` frames went out
leaves those frames on the daemon's queue, which held none from its pid; a
later request with the same pid (from the same process, or from a later one
given the same pid) then follows them on the table the failure left. A reader
that sorts frames by pid and feeds them to the reassembly machine reads one
message: the first `k` pages of the failed request, then the whole later
payload. Only a failure at the first frame leaves the later request intact. -/
theorem interrupted_request_runs_into_next (self : MessageChannel) {typeId typeId' : BitVec 16}
    {receiveChan receiveChan' : BitVec 32} {data data' : List UInt8} {w w₁ v v₁ : World} {q : MsgQueue}
    {e : BitVec 32} (found : w.kernel.find? self.msqId = some q) (fresh : q.messages.filter (isFrameOf w.pid) = [])
    (failed : sendLoop self typeId receiveChan data w = (.returns (.error e), w₁))
    (samePid : v.pid = w.pid) (sameTable : v.kernel = w₁.kernel)
    (done : sendLoop self typeId' receiveChan' data' v = (.returns (.ok ()), v₁)) (nonempty : data' ≠ []) :
    ∃ k < pageCount data, ∃ q₁, v₁.kernel.find? self.msqId = some q₁ ∧
      Reassembly.run (.collecting []) ((q₁.messages.filter (isFrameOf w.pid)).map (Data.ofBytes ·.mText)) =
        (.done (data.take (MESSAGE_LENGTH * k) ++ data'), []) := by
  obtain ⟨sent, left, split, unsent, appended, -⟩ := sendLoop_failed failed
  obtain ⟨appended', -, -⟩ := sendLoop_ok done
  rw [samePid] at appended'
  have unfinished := length_pagedFrames_pos w.pid typeId receiveChan unsent
  have later := List.ne_nil_of_length_pos unfinished
  have counted := congrArg List.length split
  rw [List.length_append, length_pagedFrames, length_pagedFrames] at counted
  rw [length_pagedFrames] at unfinished
  have firstPages : sent = (pagedFrames w.pid typeId receiveChan data).take sent.length := by
    rw [← split, List.take_left]
  have queue : v₁.kernel.find? self.msqId = some (q.push (sent.map Message.toQueued ++
      (pagedFrames w.pid typeId' receiveChan' data').map Message.toQueued)) := by
    rw [appended' self.msqId, if_pos rfl, sameTable, appended self.msqId, if_pos rfl, found]
    simp only [Option.map_some', MsgQueue.push_push]
  refine ⟨sent.length, by omega, _, queue, ?_⟩
  have own : ∀ f ∈ sent, f ∈ pagedFrames w.pid typeId receiveChan data := fun f mem =>
    split ▸ List.mem_append_left _ mem
  obtain ⟨run, -⟩ := run_sent split later
  simp only [MsgQueue.push, List.filter_append, fresh, List.nil_append, filter_pagedFrames own,
    filter_pagedFrames (fun _ mem => mem), List.map_append, data_toQueued, Reassembly.run_append run,
    run_pagedFrames _ _ _ nonempty]
  rw [firstPages, payloads_take_pagedFrames _ _ _ _ (by omega), ← firstPages]

/-- A process with pid 1 beside the daemon's empty queue, whose second call is
interrupted by a signal. -/
def interruptedWorld : World := daemonWorld [none, some .EINTR]

/-- That process pages 150 bytes and the signal stops the loop at the second
frame; a later process, again with pid 1, pages `{}` on the table left. The
reader sorting by pid reads the first 100 bytes of the one followed by `{}`. -/
theorem interrupted_request_runs_into_next_after_one_page :
    ∃ w₁ v₁, sendLoop ⟨0⟩ 0 (-1) (List.replicate 150 0x61) interruptedWorld = (.returns (.error 1), w₁) ∧
      sendLoop ⟨0⟩ 0 (-1) emptyObject.bytes { daemonWorld [] with kernel := w₁.kernel } = (.returns (.ok ()), v₁) ∧
      ∃ k < pageCount (List.replicate 150 0x61), ∃ q₁, v₁.kernel.find? 0 = some q₁ ∧
        Reassembly.run (.collecting []) ((q₁.messages.filter (isFrameOf 1)).map (Data.ofBytes ·.mText)) =
          (.done ((List.replicate 150 0x61).take (MESSAGE_LENGTH * k) ++ emptyObject.bytes), []) := by
  have nonempty : (List.replicate 150 (0x61 : UInt8)).length > 0 := by simp
  obtain ⟨w₂, firstSent, interruptedNext⟩ : ∃ w₂,
      sendNext ⟨0⟩ 0 (-1) (List.replicate 150 (0x61 : UInt8)) interruptedWorld = some (0, w₂) ∧
        w₂.faults = [some .EINTR] :=
    ⟨_, by
      unfold sendNext sendPagedMessage
      exact @Libc.msgsnd_of_pass 0 _ sizeOfData interruptedWorld ⟨0x50, []⟩ rfl rfl
        (by rw [pagedMessage_mType]; exact one_le_MESSAGE_TYPE) (by decide) (by decide), by rfl⟩
  obtain ⟨w₁, interrupted, sameKernel⟩ := @sendLoop_interrupted ⟨0⟩ 0 (-1)
    ((List.replicate 150 (0x61 : UInt8)).drop (min (List.replicate 150 (0x61 : UInt8)).length MESSAGE_LENGTH)) w₂
    .EINTR [] interruptedNext
    (List.ne_nil_of_length_pos (by simp only [List.length_drop, List.length_replicate]; decide))
  have failed : sendLoop ⟨0⟩ 0 (-1) (List.replicate 150 0x61) interruptedWorld = (.returns (.error 1), w₁) := by
    rw [sendLoop_of_sent nonempty firstSent (by decide)]
    exact interrupted
  have queued := (sendPagedMessage_ok firstSent (by decide)).1 0
  rw [if_pos rfl, ← sameKernel] at queued
  obtain ⟨v₁, done, -⟩ := @sendLoop_of_room ⟨0⟩ 0 (-1) emptyObject.bytes
    { daemonWorld [] with kernel := w₁.kernel } _ rfl queued (roomFor_push (by decide) _)
  exact ⟨w₁, v₁, failed, done, @interrupted_request_runs_into_next ⟨0⟩ 0 0 (-1) (-1) _ _ interruptedWorld _
    { daemonWorld [] with kernel := w₁.kernel } _ ⟨0x50, []⟩ 1 rfl rfl failed rfl rfl done (by decide)⟩

end Paperd.Messaging
