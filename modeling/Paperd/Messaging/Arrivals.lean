/-
# Replies arriving while the client waits

`receive_message` blocks in `msgrcv` until a frame of its type is on the
reply queue, and the daemon puts frames there whenever it gets to them; so may
any other process, since the queue is created with mode `0o666`. This module
runs the reassembly loop one pass at a time, interleaved with such writes in
any order, and shows that the timing does not matter: the client takes the
frames in the order they arrived, none lost, and after every step the loop is
where the reassembly machine is after exactly the frames it took. When the
frames are those of one paged reply, the client returns exactly its payload
or fails with `Err(1)`; with no verdict against its calls, once the whole
reply has arrived it is read in as many passes as it has frames. Last, clients
with different pids never share a reply queue.

Writes of type `MESSAGE_TYPE` are whole frames here: a shorter text would
leave an earlier frame's bytes in the buffer, which the machine does not
model. No process but the client reads the reply queue, and no queue is
removed.
-/

import Paperd.Messaging.Interleaving
import Paperd.Messaging.Receive

namespace Paperd.Messaging

open Paperd.Sysv

/-! ### The reassembly loop one pass at a time -/

/-- Where one pass of the reassembly loop leaves it: waiting in `msgrcv`,
going on from the frame delivered with the bytes gathered, or ended. -/
inductive ReceivePass where
  | waits
  | next (message : Message) (buffer : List UInt8) (w : World)
  | stop (e : Exit (Except (BitVec 32) (List UInt8))) (w : World)

/-- One pass of the loop of `receive_message`: one `msgrcv`, then the check of
what it returned and the body of the loop. -/
def receivePass (self : ResponseChannel) (message : Message) (buffer : List UInt8) (w : World) :
    ReceivePass :=
  match Libc.msgrcv self.responseChan message sizeOfData MESSAGE_TYPE w with
  | none => .waits
  | some (res, message, w₁) =>
    if res = -1 then
      let chan := self.responseChan.toInt
      let msg := w₁.errno.desc
      .stop (.returns (.error 1)) (w₁.eprintln s!"Failed to receive message from channel: {chan}: {msg}")
    else
      match appendFrame message buffer with
      | .error p => .stop (.panics p) w₁
      | .ok (true, buffer) => .stop (.returns (.ok buffer)) w₁
      | .ok (false, buffer) => .next message buffer w₁

/-- The loop is its passes: one pass, then the loop again from where the pass
left it; a pass that waits is a loop that waits. -/
theorem receiveLoop_eq_receivePass (self : ResponseChannel) (message : Message) (buffer : List UInt8)
    (w : World) :
    receiveLoop self message buffer w =
      match receivePass self message buffer w with
      | .waits => (.blocks, w)
      | .next message buffer w => receiveLoop self message buffer w
      | .stop e w => (e, w) := by
  rw [receiveLoop]
  unfold receivePass
  split
  · next none => rw [none]
  · next res message' w₁ delivered =>
    rw [delivered]
    dsimp only
    by_cases failed : res = -1
    · rw [dif_pos failed, if_pos failed]
    · rw [dif_neg failed, if_neg failed]
      rcases appendFrame message' buffer with p | ⟨_ | _, b⟩ <;> rfl

/-- The frames among queued messages: those of type `MESSAGE_TYPE`. -/
def framesIn (l : List QueuedMessage) : List QueuedMessage := l.filter (·.mType == MESSAGE_TYPE)

@[simp] theorem framesIn_append (l l' : List QueuedMessage) : framesIn (l ++ l') = framesIn l ++ framesIn l' :=
  List.filter_append _ _

@[simp] theorem framesIn_frameOf (d : Data) (l : List QueuedMessage) :
    framesIn (frameOf d :: l) = frameOf d :: framesIn l := by
  simp [framesIn, frameOf, Message.toQueued]

/-- A whole frame delivered over any buffer leaves exactly that frame in it. -/
theorem overlay_frameOf (message : Message) (d : Data) :
    (⟨(frameOf d).mType, message.data.overlay (frameOf d).mText⟩ : Message) = ⟨MESSAGE_TYPE, d⟩ := by
  simp [frameOf, Message.toQueued]

/-- The body of the loop on a whole frame is one step of the machine: it goes
on while the machine collects, and otherwise ends as the machine's state
says. -/
theorem appendFrame_step (d : Data) (buffer : List UInt8) (w₁ : World) :
    (match appendFrame ⟨MESSAGE_TYPE, d⟩ buffer with
      | .error p => ReceivePass.stop (.panics p) w₁
      | .ok (true, buffer) => .stop (.returns (.ok buffer)) w₁
      | .ok (false, buffer) => .next ⟨MESSAGE_TYPE, d⟩ buffer w₁) =
    match Reassembly.step (.collecting buffer) d with
    | .collecting bytes => .next ⟨MESSAGE_TYPE, d⟩ bytes w₁
    | s => .stop s.exit w₁ := by
  rw [Reassembly.step]
  by_cases fits : Reassembly.declared d ≤ MESSAGE_LENGTH
  · rw [appendFrame_of_le ⟨MESSAGE_TYPE, d⟩ buffer fits, if_pos fits]
    cases fin : Reassembly.final d
    · have notDone : (d.messageLength &&& MASK == MASK) = false := fin
      simp [notDone]
    · have isDone : (d.messageLength &&& MASK == MASK) = true := fin
      simp [isDone, Reassembly.exit]
  · have overlong : ¬(d.messageLength &&& 0x7F).toNat ≤ MESSAGE_LENGTH := fits
    simp only [appendFrame, if_neg overlong, if_neg fits]
    rfl

/-- Every way a pass can go on a reply queue whose frames are whole: it waits;
a failed `msgrcv` ends the loop with `Err(1)` and changes no queue; or the
oldest frame, behind messages of other types, is taken off the queue and fed
to the machine, the loop going on while the machine collects. -/
theorem receivePass_cases (self : ResponseChannel) (message : Message) (buffer : List UInt8) (w : World)
    {q : MsgQueue} (found : w.kernel.find? self.responseChan = some q)
    (whole : ∀ m ∈ q.messages, m.mType = MESSAGE_TYPE → ∃ d, m = frameOf d) :
    receivePass self message buffer w = .waits ∨
    (∃ w', receivePass self message buffer w = .stop (.returns (.error 1)) w' ∧
      w'.kernel = w.kernel ∧ w'.pid = w.pid) ∨
    (∃ other d rest w₁, q.messages = other ++ frameOf d :: rest ∧ framesIn other = [] ∧
      w₁.kernel = w.kernel.setMessages self.responseChan (other ++ rest) ∧ w₁.pid = w.pid ∧
      receivePass self message buffer w =
        match Reassembly.step (.collecting buffer) d with
        | .collecting bytes => .next ⟨MESSAGE_TYPE, d⟩ bytes w₁
        | s => .stop s.exit w₁) := by
  rcases h : Libc.msgrcv self.responseChan message sizeOfData MESSAGE_TYPE w with _ | ⟨res, message', w₁⟩
  · exact .inl (by simp only [receivePass, h])
  · rcases Libc.msgrcv_cases h with ⟨qm, k, -, taken, rfl, rfl, rfl⟩ | ⟨rfl, rfl, e, rfl⟩
    · obtain ⟨q', other, rest, found', layout, skipped, typed, rfl⟩ := Kernel.msgrcv_layout taken
      rw [found] at found'
      cases found'
      obtain ⟨d, rfl⟩ := whole qm (by simp [layout]) typed
      have delivered : BitVec.ofNat 64 (frameOf d).mText.length ≠ -1 := by
        simp only [frameOf, Message.toQueued, Data.length_toBytes, sizeOfData]
        decide
      refine .inr (.inr ⟨other, d, rest,
        { w.nextFault.2 with kernel := w.kernel.setMessages self.responseChan (other ++ rest) }, layout,
        List.filter_eq_nil_iff.mpr fun o mem => by simp [skipped o mem], rfl, by simp [World.nextFault_snd], ?_⟩)
      simp only [receivePass, h, if_neg delivered, overlay_frameOf]
      exact appendFrame_step d buffer _
    · exact .inr (.inl ⟨_, by simp only [receivePass, h, if_true]; rfl,
        by simp [World.eprintln, World.nextFault_snd], by simp [World.eprintln, World.nextFault_snd]⟩)

/-! ### The client waiting while replies arrive -/

/-- A process in the reassembly loop of a `receive_message`: its reply queue,
its own state, the reused buffer, the bytes gathered, and how the loop ended
once it has. -/
structure Receiver where
  channel : ResponseChannel
  proc : Proc
  message : Message
  buffer : List UInt8
  exit : Option (Exit (Except (BitVec 32) (List UInt8)))

namespace Receiver

/-- The receiver takes the next pass of its loop over the shared table. A pass
that waits changes nothing: the call sleeps, and runs again when the receiver
is next scheduled. Once the loop has ended the receiver does nothing. -/
def pass (r : Receiver) (k : Kernel) : Receiver × Kernel :=
  match r.exit with
  | some _ => (r, k)
  | none =>
    match receivePass r.channel r.message r.buffer (r.proc.world k) with
    | .waits => (r, k)
    | .next message buffer w => ({ r with proc := Proc.ofWorld w, message, buffer }, w.kernel)
    | .stop e w => ({ r with proc := Proc.ofWorld w, exit := some e }, w.kernel)

/-- Where a receiver stands against the machine fed, from the bytes `start`,
the frames it took: while its loop runs, the machine is collecting exactly the
receiver's bytes; once the loop has ended, the machine stopped where the loop
ended, unless a failed `msgrcv` ended it. -/
def Follows (r : Receiver) (start : List UInt8) (taken : List Data) : Prop :=
  match r.exit with
  | none => Reassembly.run (.collecting start) taken = (.collecting r.buffer, [])
  | some e => e = .returns (.error 1) ∨
      ∃ s, Reassembly.run (.collecting start) taken = (s, []) ∧ s.stopped = true ∧ e = s.exit

end Receiver

/-- The shared table, the client in its reassembly loop, and the messages
that have joined its reply queue since the start, oldest first. -/
structure Awaiting where
  kernel : Kernel
  receiver : Receiver
  arrived : List QueuedMessage

/-- Who moves next: the client takes one pass of its loop, or some process
(the daemon replying, or any other) puts `m` at the back of queue `msqid` with
`msgsnd`. -/
inductive Move where
  | receive
  | post (msqid : BitVec 32) (m : QueuedMessage)

namespace Awaiting

/-- One move. A `msgsnd` the kernel refuses, or one that waits for room on a
full queue, changes nothing. -/
def act (S : Awaiting) : Move → Awaiting
  | .receive => ⟨(S.receiver.pass S.kernel).2, (S.receiver.pass S.kernel).1, S.arrived⟩
  | .post msqid m =>
    match S.kernel.msgsnd msqid m with
    | .queued k => ⟨k, S.receiver, if msqid = S.receiver.channel.responseChan then S.arrived ++ [m] else S.arrived⟩
    | .failed _ => S
    | .waits => S

/-- The moves of a schedule, one after another. -/
def run (S : Awaiting) : List Move → Awaiting
  | [] => S
  | a :: as => (S.act a).run as

/-- What holds of `S`, reached from `S0`: the same reply queue, still in the
table, with whole frames only; the frames the client took, followed by those
still queued, are the frames that were queued at the start followed by those
that arrived since; and the client is where the machine is after the frames
it took. -/
def Consistent (S0 S : Awaiting) : Prop :=
  S.receiver.channel = S0.receiver.channel ∧
  ∃ q, S.kernel.find? S0.receiver.channel.responseChan = some q ∧
    (∀ m ∈ q.messages, m.mType = MESSAGE_TYPE → ∃ d, m = frameOf d) ∧
    ∃ taken : List Data, taken.map frameOf ++ framesIn q.messages =
        framesIn (queued S0.kernel S0.receiver.channel.responseChan ++ S.arrived) ∧
      S.receiver.Follows S0.receiver.buffer taken

/-- A client at the top of its loop, before anything arrives, has taken
nothing. -/
theorem consistent_start (S0 : Awaiting) (start : S0.receiver.exit = none) (fresh : S0.arrived = [])
    {q0 : MsgQueue} (live : S0.kernel.find? S0.receiver.channel.responseChan = some q0)
    (whole : ∀ m ∈ q0.messages, m.mType = MESSAGE_TYPE → ∃ d, m = frameOf d) : Consistent S0 S0 := by
  refine ⟨rfl, q0, live, whole, [], by simp [fresh, queued, live], ?_⟩
  simp only [Receiver.Follows, start, Reassembly.run_nil]

/-- Taking the oldest frame off the queue moves it to the end of what was
taken, and the order of all frames stays as it was. -/
theorem order_take {taken : List Data} {other rest queue all : List QueuedMessage} {d : Data}
    (layout : queue = other ++ frameOf d :: rest) (noFrames : framesIn other = [])
    (order : taken.map frameOf ++ framesIn queue = all) :
    (taken ++ [d]).map frameOf ++ framesIn (other ++ rest) = all := by
  rw [← order, layout]
  simp [noFrames]

/-- A pass of the client keeps `Consistent`: a frame it takes moves from the
queue to what it took, and the machine takes the same step as the loop. -/
theorem consistent_receive {S0 S : Awaiting} (consistent : Consistent S0 S) :
    Consistent S0 (S.act .receive) := by
  obtain ⟨chan, q, found, whole, taken, order, follows⟩ := consistent
  rcases ended : S.receiver.exit with _ | e
  · have running : Reassembly.run (.collecting S0.receiver.buffer) taken = (.collecting S.receiver.buffer, []) := by
      simpa only [Receiver.Follows, ended] using follows
    have found' := found
    rw [← chan] at found'
    rcases receivePass_cases S.receiver.channel S.receiver.message S.receiver.buffer
      (S.receiver.proc.world S.kernel) found' whole with
      waits | ⟨w', stop, kernel, -⟩ | ⟨other, d, rest, w₁, layout, noFrames, kernel, -, step⟩
    · have still : S.act .receive = S := by simp [act, Receiver.pass, ended, waits]
      rw [still]
      exact ⟨chan, q, found, whole, taken, order, follows⟩
    · have moved : S.act .receive =
          ⟨S.kernel, { S.receiver with proc := Proc.ofWorld w', exit := some (.returns (.error 1)) }, S.arrived⟩ := by
        simp only [act, Receiver.pass, ended, stop, kernel, Proc.world_kernel]
      rw [moved]
      exact ⟨chan, q, found, whole, taken, order, by simp [Receiver.Follows]⟩
    · have next := Reassembly.run_append running [d]
      rw [Reassembly.run_collecting_cons, Reassembly.run_nil] at next
      have found₁ : w₁.kernel.find? S0.receiver.channel.responseChan = some { q with messages := other ++ rest } := by
        simp [kernel, ← chan, found']
      have whole₁ : ∀ m ∈ other ++ rest, m.mType = MESSAGE_TYPE → ∃ d, m = frameOf d := fun m mem =>
        whole m (by rw [layout]; simp only [List.mem_append, List.mem_cons] at mem ⊢; tauto)
      have order₁ := order_take layout noFrames order
      rcases hs : Reassembly.step (.collecting S.receiver.buffer) d with bytes | bytes | len <;>
        rw [hs] at next step
      · have moved : S.act .receive = ⟨w₁.kernel,
            { S.receiver with proc := Proc.ofWorld w₁, message := ⟨MESSAGE_TYPE, d⟩, buffer := bytes }, S.arrived⟩ := by
          simp only [act, Receiver.pass, ended, step]
        rw [moved]
        exact ⟨chan, _, found₁, whole₁, _, order₁, by simpa only [Receiver.Follows, ended] using next⟩
      · have moved : S.act .receive = ⟨w₁.kernel,
            { S.receiver with proc := Proc.ofWorld w₁, exit := some (Reassembly.done bytes).exit }, S.arrived⟩ := by
          simp only [act, Receiver.pass, ended, step]
        rw [moved]
        exact ⟨chan, _, found₁, whole₁, _, order₁, .inr ⟨_, next, rfl, rfl⟩⟩
      · have moved : S.act .receive = ⟨w₁.kernel,
            { S.receiver with proc := Proc.ofWorld w₁, exit := some (Reassembly.overlong len).exit }, S.arrived⟩ := by
          simp only [act, Receiver.pass, ended, step]
        rw [moved]
        exact ⟨chan, _, found₁, whole₁, _, order₁, .inr ⟨_, next, rfl, rfl⟩⟩
  · have still : S.act .receive = S := by simp [act, Receiver.pass, ended]
    rw [still]
    exact ⟨chan, q, found, whole, taken, order, follows⟩

/-- A write keeps `Consistent`, when a frame written to the reply queue is
whole: it joins the back of the queue and of what has arrived. -/
theorem consistent_post {S0 S : Awaiting} (consistent : Consistent S0 S) {msqid : BitVec 32}
    {m : QueuedMessage} (whole : msqid = S0.receiver.channel.responseChan → m.mType = MESSAGE_TYPE → ∃ d, m = frameOf d) :
    Consistent S0 (S.act (.post msqid m)) := by
  obtain ⟨chan, q, found, wholeQueued, taken, order, follows⟩ := consistent
  rcases sent : S.kernel.msgsnd msqid m with k | e | _
  case' failed | waits => simp only [act, sent]; exact ⟨chan, q, found, wholeQueued, taken, order, follows⟩
  · obtain ⟨q', found', -, -, -, rfl⟩ := Kernel.msgsnd_eq_queued.mp sent
    simp only [act, sent, chan]
    by_cases here : msqid = S0.receiver.channel.responseChan
    · subst here
      rw [found] at found'
      cases found'
      refine ⟨chan, { q with messages := q.messages ++ [m] }, by simp [found], fun m' mem => ?_, taken, ?_, follows⟩
      · rcases List.mem_append.mp mem with old | new
        · exact wholeQueued m' old
        · rw [List.mem_singleton.mp new]
          exact whole rfl
      · simp only [if_true, framesIn_append] at order ⊢
        rw [← List.append_assoc _ (framesIn S.arrived), ← order, List.append_assoc]
    · rw [if_neg here]
      exact ⟨chan, q, by simp [here, Ne.symm here, found], wholeQueued, taken, order, follows⟩

/-- `Consistent` holds after every schedule whose writes of frames to the
reply queue are whole. -/
theorem consistent_run {S0 : Awaiting} :
    ∀ (schedule : List Move) (S : Awaiting), Consistent S0 S →
      (∀ m, Move.post S0.receiver.channel.responseChan m ∈ schedule → m.mType = MESSAGE_TYPE →
        ∃ d, m = frameOf d) →
      Consistent S0 (S.run schedule)
  | [], _, consistent, _ => consistent
  | .receive :: as, _, consistent, whole =>
    consistent_run as _ (consistent_receive consistent) fun m mem => whole m (List.mem_cons_of_mem _ mem)
  | .post _ m :: as, _, consistent, whole =>
    consistent_run as _ (consistent_post consistent fun here => whole m (here ▸ List.mem_cons_self _ _))
      fun m mem => whole m (List.mem_cons_of_mem _ mem)

end Awaiting

/-- **Timing does not matter.** A client at the top of the reassembly loop of
`receive_message`, on a live reply queue, is scheduled in any order with
processes writing to any queue; every frame written to its reply queue, and
every one queued there at the start, is whole. After any schedule, the frames
the client took, followed by those still on its queue, are the frames that
were queued at the start followed by those that arrived since, in order: none
lost, repeated or reordered. While its loop runs, the reassembly machine fed
the frames it took is collecting exactly the client's bytes; once its loop
has ended, the machine stopped at the last frame it took and the loop ended as
the machine's state says (returning the bytes, or panicking at a length past
the array), unless a failed `msgrcv` ended it with `Err(1)`. -/
theorem replies_in_arrival_order (S0 : Awaiting) (start : S0.receiver.exit = none) (fresh : S0.arrived = [])
    {q0 : MsgQueue} (live : S0.kernel.find? S0.receiver.channel.responseChan = some q0)
    (wholeQueued : ∀ m ∈ q0.messages, m.mType = MESSAGE_TYPE → ∃ d, m = frameOf d) (schedule : List Move)
    (wholePosted : ∀ m, Move.post S0.receiver.channel.responseChan m ∈ schedule → m.mType = MESSAGE_TYPE →
      ∃ d, m = frameOf d) :
    ∃ q taken, (S0.run schedule).kernel.find? S0.receiver.channel.responseChan = some q ∧
      taken.map frameOf ++ framesIn q.messages = framesIn (q0.messages ++ (S0.run schedule).arrived) ∧
      ((S0.run schedule).receiver.exit = none →
        Reassembly.run (.collecting S0.receiver.buffer) taken = (.collecting (S0.run schedule).receiver.buffer, [])) ∧
      ∀ e, (S0.run schedule).receiver.exit = some e → e = .returns (.error 1) ∨
        ∃ s, Reassembly.run (.collecting S0.receiver.buffer) taken = (s, []) ∧ s.stopped = true ∧ e = s.exit := by
  obtain ⟨-, q, found, -, taken, order, follows⟩ :=
    Awaiting.consistent_run schedule S0 (Awaiting.consistent_start S0 start fresh live wholeQueued) wholePosted
  refine ⟨q, taken, found, by simpa [queued, live] using order, fun running => ?_, fun e ended => ?_⟩
  · simpa only [Receiver.Follows, running] using follows
  · simpa only [Receiver.Follows, ended] using follows

/-- A client, pid 2, at the top of its loop on reply queue 0, which is empty. -/
def awaitingReply : Awaiting :=
  ⟨Kernel.single 2 [], ⟨⟨0⟩, ⟨2, .UnknownErrno, [], []⟩, zeroedMessage, [], none⟩, []⟩

/-- The daemon posts a frame to the reply queue, the client takes a pass,
another process posts to a queue that does not exist, and the client takes
another pass. -/
def replyThenReceive : List Move :=
  [.post 0 (frameOf zeroedMessage.data), .receive, .post 1 (frameOf zeroedMessage.data), .receive]

theorem replies_in_arrival_order_one_reply :
    (awaitingReply.receiver.exit = none ∧ awaitingReply.arrived = [] ∧
      awaitingReply.kernel.find? awaitingReply.receiver.channel.responseChan = some ⟨2, []⟩ ∧
      ∀ m, Move.post awaitingReply.receiver.channel.responseChan m ∈ replyThenReceive →
        m.mType = MESSAGE_TYPE → ∃ d, m = frameOf d) ∧
    ∃ q taken, (awaitingReply.run replyThenReceive).kernel.find? awaitingReply.receiver.channel.responseChan = some q ∧
      taken.map frameOf ++ framesIn q.messages = framesIn ([] ++ (awaitingReply.run replyThenReceive).arrived) ∧
      ((awaitingReply.run replyThenReceive).receiver.exit = none →
        Reassembly.run (.collecting awaitingReply.receiver.buffer) taken =
          (.collecting (awaitingReply.run replyThenReceive).receiver.buffer, [])) ∧
      ∀ e, (awaitingReply.run replyThenReceive).receiver.exit = some e → e = .returns (.error 1) ∨
        ∃ s, Reassembly.run (.collecting awaitingReply.receiver.buffer) taken = (s, []) ∧
          s.stopped = true ∧ e = s.exit := by
  have live : awaitingReply.kernel.find? awaitingReply.receiver.channel.responseChan = some ⟨2, []⟩ := rfl
  have whole : ∀ m, Move.post awaitingReply.receiver.channel.responseChan m ∈ replyThenReceive →
      m.mType = MESSAGE_TYPE → ∃ d, m = frameOf d := fun m mem _ =>
    ⟨zeroedMessage.data, by simpa [replyThenReceive, awaitingReply] using mem⟩
  exact ⟨⟨rfl, rfl, live, whole⟩,
    replies_in_arrival_order awaitingReply rfl rfl live (fun _ none => nomatch none) replyThenReceive whole⟩

/-- Frames read back from their bytes are the frames' data. -/
theorem data_frameOf (taken : List Data) : (taken.map frameOf).map (Data.ofBytes ·.mText) = taken := by
  simp [frameOf, Message.toQueued, Function.comp_def]

/-- Frames a client took ahead of others, out of a reply's frames, are the
reply's first frames, and the others are the rest. -/
theorem taken_prefix {taken : List Data} {others : List QueuedMessage} {frames : List Message}
    (split : taken.map frameOf ++ others = frames.map Message.toQueued) :
    ∃ sent later, sent ++ later = frames ∧ taken = sent.map (·.data) ∧ later.map Message.toQueued = others := by
  obtain ⟨sent, later, rfl, same, rest⟩ := List.map_eq_append_iff.mp split.symm
  refine ⟨sent, later, rfl, ?_, rest⟩
  rw [← data_frameOf taken, ← same, data_toQueued]

/-- Where a client stands that took, from an empty buffer, the first frames
of a non-empty payload's frames: it has not panicked nor returned other bytes;
it has returned the payload only once it took every frame; while it runs,
frames are left and its bytes are the start of the payload. -/
theorem follows_reply {r : Receiver} {pid : UInt32} {typeId : BitVec 16} {receiveChan : BitVec 32}
    {data : List UInt8} (nonempty : data ≠ []) {sent later : List Message}
    (split : sent ++ later = pagedFrames pid typeId receiveChan data) (follows : r.Follows [] (sent.map (·.data))) :
    (∀ e, r.exit = some e → e = .returns (.error 1) ∨ later = [] ∧ e = .returns (.ok data)) ∧
    (r.exit = none → later ≠ [] ∧ r.buffer <+: data) := by
  unfold Receiver.Follows at follows
  by_cases whole : later = []
  · rw [whole, List.append_nil] at split
    have done := run_pagedFrames pid typeId receiveChan nonempty []
    rw [← split, List.nil_append] at done
    refine ⟨fun e ended => ?_, fun running => ?_⟩
    · rw [ended] at follows
      rcases follows with failed | ⟨s, run, -, rfl⟩
      · exact .inl failed
      · rw [done] at run
        cases run
        exact .inr ⟨whole, rfl⟩
    · rw [running, done] at follows
      cases follows
  · obtain ⟨run, payload⟩ := run_sent split whole
    refine ⟨fun e ended => ?_, fun running => ?_⟩
    · rw [ended] at follows
      rcases follows with failed | ⟨s, run', stopped, -⟩
      · exact .inl failed
      · rw [run] at run'
        cases run'
        cases stopped
    · rw [running, run] at follows
      rw [Reassembly.collecting.inj (Prod.mk.inj follows).1] at payload
      exact ⟨whole, _, payload⟩

/-- On a reply queue with no frame on it at the start, the frames queued since
are those that arrived. -/
theorem framesIn_queued_append {k : Kernel} {c : BitVec 32} {q0 : MsgQueue} (live : k.find? c = some q0)
    (noFrames : framesIn q0.messages = []) (arrived : List QueuedMessage) :
    framesIn (queued k c ++ arrived) = framesIn arrived := by
  rw [queued, live, Option.map_some', Option.getD_some, framesIn_append, noFrames, List.nil_append]

/-- A reply queue with no frame on it at the start holds only whole frames. -/
theorem whole_of_noFrames {q0 : MsgQueue} (noFrames : framesIn q0.messages = []) :
    ∀ m ∈ q0.messages, m.mType = MESSAGE_TYPE → ∃ d, m = frameOf d := fun m mem typed =>
  absurd (List.filter_eq_nil_iff.mp noFrames m mem) (by simp [typed])

/-- **The reply comes out whole.** A client at the top of the reassembly loop
of `receive_message`, its buffer empty, on a live reply queue with no frame on
it, is scheduled in any order with processes writing whole frames to any
queue; the frames that reach its reply queue are the first frames, in order,
of the paged reply to a non-empty payload. Then the client never panics and
never returns other bytes: once its loop has ended it has returned exactly the
payload, unless a failed `msgrcv` ended it with `Err(1)`; while it runs, the
bytes it gathered are the start of the payload. -/
theorem receives_whole_reply (S0 : Awaiting) (start : S0.receiver.exit = none) (fresh : S0.arrived = [])
    (empty : S0.receiver.buffer = []) {q0 : MsgQueue}
    (live : S0.kernel.find? S0.receiver.channel.responseChan = some q0) (noFrames : framesIn q0.messages = [])
    {pid : UInt32} {typeId : BitVec 16} {receiveChan : BitVec 32} {data : List UInt8} (nonempty : data ≠ [])
    (schedule : List Move)
    (wholePosted : ∀ m, Move.post S0.receiver.channel.responseChan m ∈ schedule → m.mType = MESSAGE_TYPE →
      ∃ d, m = frameOf d)
    (onlyReply : framesIn (S0.run schedule).arrived <+: (pagedFrames pid typeId receiveChan data).map Message.toQueued) :
    (∀ e, (S0.run schedule).receiver.exit = some e → e = .returns (.error 1) ∨ e = .returns (.ok data)) ∧
    ((S0.run schedule).receiver.exit = none → (S0.run schedule).receiver.buffer <+: data) := by
  obtain ⟨-, q, -, -, taken, order, follows⟩ := Awaiting.consistent_run schedule S0
    (Awaiting.consistent_start S0 start fresh live (whole_of_noFrames noFrames)) wholePosted
  rw [framesIn_queued_append live noFrames] at order
  obtain ⟨rest, reply⟩ := onlyReply
  obtain ⟨sent, later, split, rfl, -⟩ := taken_prefix (by rw [← reply, ← order, List.append_assoc])
  rw [empty] at follows
  obtain ⟨ended, running⟩ := follows_reply nonempty split follows
  exact ⟨fun e h => (ended e h).imp_right And.right, fun h => (running h).2⟩

/-- The frames of the reply `{}` to a request from pid 2. -/
def emptyReply : List Message := pagedFrames 2 0 0 emptyObject.bytes

/-- The daemon posts the reply's frames to queue 0. -/
def replyPosted : List Move := emptyReply.map fun f => Move.post 0 (frameOf f.data)

/-- The daemon posts the reply's frames to queue 0, then the client takes a
pass. -/
def replyDelivered : List Move := replyPosted ++ [.receive]

theorem receives_whole_reply_empty_object :
    (awaitingReply.receiver.exit = none ∧ awaitingReply.arrived = [] ∧ awaitingReply.receiver.buffer = [] ∧
      awaitingReply.kernel.find? awaitingReply.receiver.channel.responseChan = some ⟨2, []⟩ ∧
      framesIn [] = [] ∧ emptyObject.bytes ≠ [] ∧
      (∀ m, Move.post awaitingReply.receiver.channel.responseChan m ∈ replyDelivered → m.mType = MESSAGE_TYPE →
        ∃ d, m = frameOf d) ∧
      framesIn (awaitingReply.run replyDelivered).arrived <+: emptyReply.map Message.toQueued) ∧
    (∀ e, (awaitingReply.run replyDelivered).receiver.exit = some e →
      e = .returns (.error 1) ∨ e = .returns (.ok emptyObject.bytes)) ∧
    ((awaitingReply.run replyDelivered).receiver.exit = none →
      (awaitingReply.run replyDelivered).receiver.buffer <+: emptyObject.bytes) := by
  have live : awaitingReply.kernel.find? awaitingReply.receiver.channel.responseChan = some ⟨2, []⟩ := rfl
  have nonempty : emptyObject.bytes ≠ [] := by simp [emptyObject]
  have whole : ∀ m, Move.post awaitingReply.receiver.channel.responseChan m ∈ replyDelivered →
      m.mType = MESSAGE_TYPE → ∃ d, m = frameOf d := fun m mem _ => by
    simp only [replyDelivered, replyPosted, List.mem_append, List.mem_map, List.mem_singleton, Move.post.injEq,
      reduceCtorEq, or_false] at mem
    obtain ⟨f, -, -, rfl⟩ := mem
    exact ⟨f.data, rfl⟩
  have arrived : (awaitingReply.run replyDelivered).arrived = emptyReply.map (frameOf ·.data) := rfl
  have onlyReply : framesIn (awaitingReply.run replyDelivered).arrived <+: emptyReply.map Message.toQueued :=
    ⟨[], by rw [arrived]; rfl⟩
  exact ⟨⟨rfl, rfl, rfl, live, rfl, nonempty, whole, onlyReply⟩,
    receives_whole_reply awaitingReply rfl rfl rfl live rfl nonempty replyDelivered whole onlyReply⟩

/-! ### Every arrived frame is read: the reply in as many passes as it has frames -/

/-- A list's frames taken apart at the first: the messages of other types
before it, and the rest. -/
theorem split_first_frame : ∀ {l : List QueuedMessage} {f : QueuedMessage} {fs : List QueuedMessage},
    framesIn l = f :: fs → ∃ other rest, l = other ++ f :: rest ∧ framesIn other = [] ∧ framesIn rest = fs
  | [], _, _, empty => by simp [framesIn] at empty
  | m :: l, f, fs, first => by
    by_cases typed : m.mType = MESSAGE_TYPE
    · rw [framesIn, List.filter_cons_of_pos (by simpa using typed)] at first
      obtain ⟨rfl, rfl⟩ := List.cons.inj first
      exact ⟨[], l, rfl, rfl, rfl⟩
    · have skip : framesIn (m :: l) = framesIn l := List.filter_cons_of_neg (by simpa using typed)
      obtain ⟨other, rest, rfl, before, later⟩ := split_first_frame (skip ▸ first)
      exact ⟨m :: other, rest, rfl, by rw [framesIn, List.filter_cons_of_neg (by simpa using typed)]; exact before,
        later⟩

/-- With no verdict against it, a pass on a reply queue with no frame waits. -/
theorem receivePass_waits (self : ResponseChannel) (message : Message) (buffer : List UInt8) {w : World}
    {q : MsgQueue} (noFault : w.faults = []) (found : w.kernel.find? self.responseChan = some q)
    (noFrames : framesIn q.messages = []) : receivePass self message buffer w = .waits := by
  have waits := @msgrcv_without_frames self.responseChan message w q noFault found fun m mem typed =>
    absurd (List.filter_eq_nil_iff.mp noFrames m mem) (by simp [typed])
  simp only [receivePass, waits]

/-- With no verdict against it, a pass takes the oldest frame off the queue,
whole, and is one step of the machine; the world changes in its table only. -/
theorem receivePass_takes (self : ResponseChannel) (message : Message) (buffer : List UInt8) {w : World}
    {q : MsgQueue} {d : Data} {fs : List QueuedMessage} (noFault : w.faults = [])
    (found : w.kernel.find? self.responseChan = some q) (first : framesIn q.messages = frameOf d :: fs) :
    ∃ other rest, framesIn (other ++ rest) = fs ∧ receivePass self message buffer w =
      match Reassembly.step (.collecting buffer) d with
      | .collecting bytes =>
        .next ⟨MESSAGE_TYPE, d⟩ bytes { w with kernel := w.kernel.setMessages self.responseChan (other ++ rest) }
      | s => .stop s.exit { w with kernel := w.kernel.setMessages self.responseChan (other ++ rest) } := by
  obtain ⟨other, rest, layout, before, later⟩ := split_first_frame first
  have taken := @msgrcv_frame_of_first self.responseChan message ⟨MESSAGE_TYPE, d⟩ w q other rest noFault found
    layout (fun o mem typed => absurd (List.filter_eq_nil_iff.mp before o mem) (by simp [typed])) rfl
  have delivered : BitVec.ofNat 64 sizeOfData ≠ -1 := by decide
  refine ⟨other, rest, by rw [framesIn_append, before, later, List.nil_append], ?_⟩
  simp only [receivePass, taken, if_neg delivered]
  exact appendFrame_step d buffer _

namespace Receiver

/-- A pass keeps the receiver's reply queue. -/
theorem pass_channel (r : Receiver) (k : Kernel) : (r.pass k).1.channel = r.channel := by
  unfold pass
  split
  · rfl
  · split <;> rfl

/-- What a pass does with no verdict against the client's calls, on a queue
of whole frames: no verdict appears and the loop does not end with `Err(1)`;
a loop that has ended, or that finds no frame, changes nothing; one that
finds frames takes the oldest. -/
theorem pass_clean (r : Receiver) (k : Kernel) {q : MsgQueue} (noFault : r.proc.faults = [])
    (found : k.find? r.channel.responseChan = some q)
    (whole : ∀ m ∈ q.messages, m.mType = MESSAGE_TYPE → ∃ d, m = frameOf d)
    (notFailed : ∀ e, r.exit = some e → e ≠ .returns (.error 1)) :
    (r.pass k).1.proc.faults = [] ∧ (∀ e, (r.pass k).1.exit = some e → e ≠ .returns (.error 1)) ∧
      (r.exit = none → framesIn q.messages = [] → r.pass k = (r, k)) ∧
      (r.exit = none → ∀ f fs, framesIn q.messages = f :: fs →
        framesIn (queued (r.pass k).2 r.channel.responseChan) = fs) := by
  rcases ended : r.exit with _ | e
  · have running : r.pass k = match receivePass r.channel r.message r.buffer (r.proc.world k) with
        | .waits => (r, k)
        | .next message buffer w => ({ r with proc := Proc.ofWorld w, message, buffer }, w.kernel)
        | .stop e w => ({ r with proc := Proc.ofWorld w, exit := some e }, w.kernel) := by
      simp only [pass, ended]
    rcases frames : framesIn q.messages with _ | ⟨f, fs⟩
    · rw [running, @receivePass_waits r.channel r.message r.buffer (r.proc.world k) q noFault found frames]
      exact ⟨noFault, by simp [ended], fun _ _ => rfl, fun _ _ _ absent => nomatch absent⟩
    · have mem := List.mem_filter.mp (frames ▸ List.mem_cons_self f fs)
      obtain ⟨d, rfl⟩ := whole f mem.1 (beq_iff_eq.mp mem.2)
      obtain ⟨other, rest, later, step⟩ :=
        @receivePass_takes r.channel r.message r.buffer (r.proc.world k) q d fs noFault found frames
      have left : framesIn (queued (k.setMessages r.channel.responseChan (other ++ rest)) r.channel.responseChan) =
          fs := by
        rw [queued_setMessages found, if_pos rfl]
        exact later
      rw [running, step]
      rcases Reassembly.step (.collecting r.buffer) d with bytes | bytes | len <;> dsimp only <;>
        refine ⟨noFault, fun e exit => ?_, fun _ absent => absurd absent (List.cons_ne_nil _ _),
          fun _ _ _ taken => by obtain ⟨-, rfl⟩ := List.cons.inj taken; exact left⟩
      · simp [ended] at exit
      · cases exit
        simp [Reassembly.exit]
      · cases exit
        simp [Reassembly.exit]
  · have still : r.pass k = (r, k) := by simp only [pass, ended]
    rw [still]
    exact ⟨noFault, fun e' exit => notFailed e' exit, fun h => absurd h (Option.some_ne_none e),
      fun h => absurd h (Option.some_ne_none e)⟩

end Receiver

namespace Awaiting

/-- `Consistent`, with no verdict against the client's calls: the loop then
has not ended with `Err(1)`. -/
def Clean (S0 S : Awaiting) : Prop :=
  Consistent S0 S ∧ S.receiver.proc.faults = [] ∧ ∀ e, S.receiver.exit = some e → e ≠ .returns (.error 1)

/-- A write leaves the client as it was. -/
theorem act_post_receiver (S : Awaiting) (msqid : BitVec 32) (m : QueuedMessage) :
    (S.act (.post msqid m)).receiver = S.receiver := by
  simp only [act]
  split <;> rfl

/-- Every move keeps `Clean`, when a frame written to the reply queue is
whole. -/
theorem clean_act {S0 S : Awaiting} (clean : Clean S0 S) (a : Move)
    (whole : ∀ m, a = .post S0.receiver.channel.responseChan m → m.mType = MESSAGE_TYPE → ∃ d, m = frameOf d) :
    Clean S0 (S.act a) := by
  obtain ⟨consistent, noFault, notFailed⟩ := clean
  cases a with
  | receive =>
    obtain ⟨chan, q, found, wholeQueued, -⟩ := id consistent
    obtain ⟨faults, exit, -⟩ := Receiver.pass_clean S.receiver S.kernel noFault (chan ▸ found) wholeQueued notFailed
    exact ⟨consistent_receive consistent, faults, exit⟩
  | post msqid m =>
    refine ⟨consistent_post consistent fun here => whole m (here ▸ rfl), ?_⟩
    rw [act_post_receiver]
    exact ⟨noFault, notFailed⟩

/-- `Clean` holds after every schedule whose writes of frames to the reply
queue are whole. -/
theorem clean_run {S0 : Awaiting} :
    ∀ (schedule : List Move) (S : Awaiting), Clean S0 S →
      (∀ m, Move.post S0.receiver.channel.responseChan m ∈ schedule → m.mType = MESSAGE_TYPE →
        ∃ d, m = frameOf d) →
      Clean S0 (S.run schedule)
  | [], _, clean, _ => clean
  | a :: as, _, clean, whole =>
    clean_run as _ (clean_act clean a fun m here => whole m (here ▸ List.mem_cons_self _ _))
      fun m mem => whole m (List.mem_cons_of_mem _ mem)

theorem run_append (S : Awaiting) (as bs : List Move) : S.run (as ++ bs) = (S.run as).run bs := by
  induction as generalizing S with
  | nil => rfl
  | cons a as ih => exact ih (S.act a)

/-- The client's passes let nothing arrive. -/
theorem arrived_receives (n : Nat) (S : Awaiting) : (S.run (List.replicate n .receive)).arrived = S.arrived := by
  induction n generalizing S with
  | zero => rfl
  | succ n ih => exact ih (S.act .receive)

/-- A pass that goes on took a message off the reply queue. -/
theorem waiting_receivePass {self : ResponseChannel} {message message' : Message} {buffer buffer' : List UInt8}
    {w w₁ : World} (next : receivePass self message buffer w = .next message' buffer' w₁) :
    w₁.kernel.waiting self.responseChan < w.kernel.waiting self.responseChan := by
  unfold receivePass at next
  split at next
  · cases next
  · next res m w' delivered =>
    split at next
    · cases next
    · next ok =>
      split at next <;> cases next
      exact Libc.waiting_msgrcv delivered ok

/-- A pass that ends the loop returns or panics; it never ends it waiting. -/
theorem receivePass_stop_ne_blocks {self : ResponseChannel} {message : Message} {buffer : List UInt8}
    {w w₁ : World} {e : Exit (Except (BitVec 32) (List UInt8))}
    (stop : receivePass self message buffer w = .stop e w₁) : e ≠ .blocks := by
  unfold receivePass at stop
  split at stop
  · cases stop
  · split at stop
    · cases stop
      exact (nomatch ·)
    · split at stop <;> cases stop <;> exact (nomatch ·)

/-- The client's passes while its loop waits in `msgrcv` change nothing. -/
theorem run_receives_of_still {S : Awaiting} (still : S.act .receive = S) :
    ∀ n, S.run (List.replicate n .receive) = S
  | 0 => rfl
  | n + 1 => by rw [List.replicate_succ, run, still, run_receives_of_still still n]

/-- **Passes refine the loop.** A client scheduled alone, its loop not ended,
runs the loop of `receive_message` from where it stands: where the loop ends,
as many passes as it takes end the client's loop the same way, in the world
the loop leaves; where the loop waits for good, no number of passes ends it. -/
theorem receives_receiveLoop :
    ∀ (S : Awaiting), S.receiver.exit = none → ∀ e w',
      receiveLoop S.receiver.channel S.receiver.message S.receiver.buffer (S.receiver.proc.world S.kernel) =
        (e, w') →
      (e ≠ .blocks → ∃ n, (S.run (List.replicate n .receive)).receiver.exit = some e ∧
        (S.run (List.replicate n .receive)).receiver.proc.world (S.run (List.replicate n .receive)).kernel = w') ∧
      (e = .blocks → ∀ n, (S.run (List.replicate n .receive)).receiver.exit = none) := by
  intro S running e w' ran
  generalize h : S.kernel.waiting S.receiver.channel.responseChan = count
  induction count using Nat.strongRecOn generalizing S e w' with
  | ind count ih =>
  rw [receiveLoop_eq_receivePass] at ran
  rcases pass : receivePass S.receiver.channel S.receiver.message S.receiver.buffer (S.receiver.proc.world S.kernel)
    with _ | ⟨message, buffer, w₁⟩ | ⟨e', w₁⟩ <;> rw [pass] at ran
  case waits =>
    cases ran
    have still : S.act .receive = S := by simp only [act, Receiver.pass, running, pass]
    exact ⟨(absurd rfl ·), fun _ n => by rw [run_receives_of_still still n, running]⟩
  case next =>
    have fewer := waiting_receivePass pass
    have next := ih _ (h ▸ fewer) ⟨w₁.kernel, { S.receiver with proc := Proc.ofWorld w₁, message, buffer }, S.arrived⟩
      running e w' ran rfl
    have one : S.act .receive = ⟨w₁.kernel, { S.receiver with proc := Proc.ofWorld w₁, message, buffer }, S.arrived⟩ := by
      simp only [act, Receiver.pass, running, pass]
    refine ⟨fun going => ?_, fun waits => ?_⟩
    · obtain ⟨n, ended, world⟩ := next.1 going
      exact ⟨n + 1, by rwa [List.replicate_succ, run, one], by rwa [List.replicate_succ, run, one]⟩
    · rintro (_ | n)
      · exact running
      · rw [List.replicate_succ, run, one]
        exact next.2 waits n
  case stop =>
    cases ran
    have one : S.act .receive = ⟨w'.kernel, { S.receiver with proc := Proc.ofWorld w', exit := some e }, S.arrived⟩ := by
      simp only [act, Receiver.pass, running, pass]
    exact ⟨fun _ => ⟨1, by rw [List.replicate_one, run, one]; rfl, by rw [List.replicate_one, run, one]; rfl⟩,
      (absurd · (receivePass_stop_ne_blocks pass))⟩

/-- How many frames the client has still to read: those on its queue while
its loop runs, none once it has ended. -/
def backlog (S : Awaiting) : Nat :=
  match S.receiver.exit with
  | some _ => 0
  | none => (framesIn (queued S.kernel S.receiver.channel.responseChan)).length

/-- A pass of a clean client reads one frame of its backlog, or finds none to
read. -/
theorem backlog_receive {S0 S : Awaiting} (clean : Clean S0 S) : (S.act .receive).backlog ≤ S.backlog - 1 := by
  obtain ⟨⟨chan, q, found, wholeQueued, -⟩, noFault, notFailed⟩ := clean
  rw [← chan] at found
  obtain ⟨-, -, still, takes⟩ := Receiver.pass_clean S.receiver S.kernel noFault found wholeQueued notFailed
  have same : queued S.kernel S.receiver.channel.responseChan = q.messages := by simp [queued, found]
  unfold backlog
  rcases ended : S.receiver.exit with _ | e
  · rcases frames : framesIn q.messages with _ | ⟨f, fs⟩
    · simp only [act, still ended frames, ended, same, frames, List.length_nil, Nat.zero_le]
    · have left := takes ended f fs frames
      simp only [act, Receiver.pass_channel, same, frames, List.length_cons, Nat.add_sub_cancel]
      split
      · exact Nat.zero_le _
      · exact le_of_eq (congrArg List.length left)
  · simp [act, Receiver.pass, ended]

/-- After `n` more passes a clean client has `n` fewer frames to read. -/
theorem backlog_receives {S0 : Awaiting} :
    ∀ (n : Nat) (S : Awaiting), Clean S0 S →
      Clean S0 (S.run (List.replicate n .receive)) ∧ (S.run (List.replicate n .receive)).backlog ≤ S.backlog - n
  | 0, _, clean => ⟨clean, Nat.le_refl _⟩
  | n + 1, S, clean =>
    have next := backlog_receives n (S.act .receive)
      (clean_act clean .receive fun _ h => nomatch h)
    have one := backlog_receive clean
    ⟨next.1, by simp only [List.replicate_succ, run]; omega⟩

/-- From a reply queue with no frame on it at the start, the client has no
more frames to read than have arrived. -/
theorem backlog_le_arrived {S0 S : Awaiting} (consistent : Consistent S0 S) {q0 : MsgQueue}
    (live : S0.kernel.find? S0.receiver.channel.responseChan = some q0) (noFrames : framesIn q0.messages = []) :
    S.backlog ≤ (framesIn S.arrived).length := by
  obtain ⟨chan, q, found, -, taken, order, -⟩ := consistent
  rw [framesIn_queued_append live noFrames] at order
  have counted := congrArg List.length order
  rw [List.length_append, List.length_map] at counted
  unfold backlog
  split
  · exact Nat.zero_le _
  · simp only [queued, chan, found, Option.map_some', Option.getD_some]
    omega

end Awaiting

/-- **Every arrived frame is read.** A client at the top of the reassembly
loop of `receive_message`, its buffer empty and no verdict against its calls,
on a live reply queue with no frame on it, is scheduled in any order with
processes writing whole frames to any queue, until every frame of the paged
reply to a non-empty payload has reached its reply queue, in order, and no
other frame has. Then, whatever the schedule was, as many more passes of the
client as the reply has frames end its loop, returning exactly the payload. -/
theorem reply_read_after_arrival (S0 : Awaiting) (start : S0.receiver.exit = none) (fresh : S0.arrived = [])
    (empty : S0.receiver.buffer = []) (noFault : S0.receiver.proc.faults = []) {q0 : MsgQueue}
    (live : S0.kernel.find? S0.receiver.channel.responseChan = some q0) (noFrames : framesIn q0.messages = [])
    {pid : UInt32} {typeId : BitVec 16} {receiveChan : BitVec 32} {data : List UInt8} (nonempty : data ≠ [])
    (schedule : List Move)
    (wholePosted : ∀ m, Move.post S0.receiver.channel.responseChan m ∈ schedule → m.mType = MESSAGE_TYPE →
      ∃ d, m = frameOf d)
    (arrivedAll : framesIn (S0.run schedule).arrived = (pagedFrames pid typeId receiveChan data).map Message.toQueued) :
    (S0.run (schedule ++ List.replicate (pagedFrames pid typeId receiveChan data).length .receive)).receiver.exit =
      some (.returns (.ok data)) := by
  have clean := Awaiting.clean_run schedule S0
    ⟨Awaiting.consistent_start S0 start fresh live (whole_of_noFrames noFrames), noFault, by simp [start]⟩ wholePosted
  have pending := Awaiting.backlog_le_arrived clean.1 live noFrames
  rw [arrivedAll, List.length_map] at pending
  obtain ⟨⟨⟨chan, q, found, -, taken, order, follows⟩, -, notFailed⟩, drained⟩ :=
    Awaiting.backlog_receives (pagedFrames pid typeId receiveChan data).length _ clean
  rw [Awaiting.run_append]
  rw [framesIn_queued_append live noFrames, Awaiting.arrived_receives, arrivedAll] at order
  obtain ⟨sent, later, split, rfl, rest⟩ := taken_prefix order
  rw [empty] at follows
  obtain ⟨ended, running⟩ := follows_reply nonempty split follows
  rcases exit : ((S0.run schedule).run (List.replicate (pagedFrames pid typeId receiveChan data).length
    .receive)).receiver.exit with _ | e
  · obtain ⟨left, -⟩ := running exit
    have read : Awaiting.backlog ((S0.run schedule).run
        (List.replicate (pagedFrames pid typeId receiveChan data).length .receive)) = 0 := by omega
    simp only [Awaiting.backlog, exit, queued, chan, found, Option.map_some', Option.getD_some,
      List.length_eq_zero] at read
    rw [read, List.map_eq_nil_iff] at rest
    exact absurd rest left
  · rcases ended e exit with failed | ⟨-, rfl⟩
    · exact absurd failed (notFailed e exit)
    · rfl

theorem reply_read_after_arrival_empty_object :
    (awaitingReply.receiver.exit = none ∧ awaitingReply.arrived = [] ∧ awaitingReply.receiver.buffer = [] ∧
      awaitingReply.receiver.proc.faults = [] ∧
      awaitingReply.kernel.find? awaitingReply.receiver.channel.responseChan = some ⟨2, []⟩ ∧
      framesIn [] = [] ∧ emptyObject.bytes ≠ [] ∧
      (∀ m, Move.post awaitingReply.receiver.channel.responseChan m ∈ replyPosted → m.mType = MESSAGE_TYPE →
        ∃ d, m = frameOf d) ∧
      framesIn (awaitingReply.run replyPosted).arrived = emptyReply.map Message.toQueued) ∧
    (awaitingReply.run (replyPosted ++ List.replicate emptyReply.length .receive)).receiver.exit =
      some (.returns (.ok emptyObject.bytes)) := by
  have live : awaitingReply.kernel.find? awaitingReply.receiver.channel.responseChan = some ⟨2, []⟩ := rfl
  have nonempty : emptyObject.bytes ≠ [] := by simp [emptyObject]
  have whole : ∀ m, Move.post awaitingReply.receiver.channel.responseChan m ∈ replyPosted →
      m.mType = MESSAGE_TYPE → ∃ d, m = frameOf d := fun m mem _ => by
    simp only [replyPosted, List.mem_map, Move.post.injEq] at mem
    obtain ⟨f, -, -, rfl⟩ := mem
    exact ⟨f.data, rfl⟩
  have arrived : framesIn (awaitingReply.run replyPosted).arrived = emptyReply.map Message.toQueued := rfl
  exact ⟨⟨rfl, rfl, rfl, rfl, live, rfl, nonempty, whole, arrived⟩,
    reply_read_after_arrival awaitingReply rfl rfl rfl rfl live rfl nonempty replyPosted whole arrived⟩

/-! ### Reply queues of different clients -/

/-- Clients open their reply queues with `create_receive_channel`, one after
another on one table, each call seeing the table the one before left: each
client's pid with what its call returned, and the table they leave. -/
def openReplyQueues : List Proc → Kernel → List (UInt32 × Except (BitVec 32) (BitVec 32)) × Kernel
  | [], k => ([], k)
  | p :: ps, k =>
    let opened := createReceiveChannel (p.world k)
    let rest := openReplyQueues ps opened.2.kernel
    ((p.pid, opened.1) :: rest.1, rest.2)

/-- The reply queues handed out, each with the pid of the client it was
handed to. -/
def handedOut (rs : List (UInt32 × Except (BitVec 32) (BitVec 32))) : List (UInt32 × BitVec 32) :=
  rs.filterMap fun r => r.2.toOption.map (r.1, ·)

/-- Opening reply queues keeps every queue of the table. -/
theorem openReplyQueues_keeps (ps : List Proc) {k : Kernel} {a : BitVec 32} {mq : MsgQueue}
    (found : k.find? a = some mq) : (openReplyQueues ps k).2.find? a = some mq := by
  induction ps generalizing k with
  | nil => exact found
  | cons p ps ih => exact ih (createReceiveChannel_keeps (p.world k) found)

/-- **Clients never share a reply queue.** Clients with pairwise different
pids open their reply queues one after another, in any order, on one table:
the queues handed out are pairwise different, and each is still in the table
at the end under the key of the pid it was handed to. So a reply the daemon
posts to one client's queue is never in another's. -/
theorem reply_queues_private (ps : List Proc) (pids : (ps.map (·.pid)).Nodup) (k : Kernel) :
    ((handedOut (openReplyQueues ps k).1).map Prod.snd).Nodup ∧
    ∀ o ∈ handedOut (openReplyQueues ps k).1, o.1 ∈ ps.map (·.pid) ∧
      ∃ mq, (openReplyQueues ps k).2.find? o.2 = some mq ∧ mq.key = o.1.toBitVec := by
  induction ps generalizing k with
  | nil => simp [openReplyQueues, handedOut]
  | cons p ps ih =>
    obtain ⟨apart, pids⟩ := List.nodup_cons.mp pids
    obtain ⟨nodup, owned⟩ := ih pids (createReceiveChannel (p.world k)).2.kernel
    rcases opened : createReceiveChannel (p.world k) with ⟨e | q, w⟩
    · simp only [opened] at nodup owned
      simp only [openReplyQueues, handedOut, opened, List.filterMap_cons, Except.toOption, Option.map_none']
      exact ⟨nodup, fun o mem => ⟨List.mem_cons_of_mem _ (owned o mem).1, (owned o mem).2⟩⟩
    · simp only [opened] at nodup owned
      obtain ⟨⟨mq, found, key⟩, -⟩ := createReceiveChannel_key opened
      have kept := openReplyQueues_keeps ps found
      simp only [openReplyQueues, handedOut, opened, List.filterMap_cons, Except.toOption, Option.map_some',
        List.map_cons, List.nodup_cons, List.mem_cons, forall_eq_or_imp]
      refine ⟨⟨fun mem => ?_, nodup⟩, ⟨.inl trivial, mq, kept, key⟩,
        fun o mem => ⟨.inr (owned o mem).1, (owned o mem).2⟩⟩
      obtain ⟨o, mem, same⟩ := List.mem_map.mp mem
      obtain ⟨pid, ⟨mq', found', key'⟩⟩ := owned o mem
      rw [same, kept] at found'
      cases found'
      have owner : p.pid = o.1 := UInt32.eq_of_toBitVec_eq (key.symm.trans key')
      rw [← owner] at pid
      exact apart pid

/-- Two clients, pids 1 and 2, with no verdict against their calls. -/
def twoClientsWaiting : List Proc := [⟨1, .UnknownErrno, [], []⟩, ⟨2, .UnknownErrno, [], []⟩]

theorem reply_queues_private_two_clients :
    (twoClientsWaiting.map (·.pid)).Nodup ∧
    ((handedOut (openReplyQueues twoClientsWaiting Kernel.empty).1).map Prod.snd).Nodup ∧
    ∀ o ∈ handedOut (openReplyQueues twoClientsWaiting Kernel.empty).1, o.1 ∈ twoClientsWaiting.map (·.pid) ∧
      ∃ mq, (openReplyQueues twoClientsWaiting Kernel.empty).2.find? o.2 = some mq ∧ mq.key = o.1.toBitVec :=
  have pids : (twoClientsWaiting.map (·.pid)).Nodup := by decide
  ⟨pids, reply_queues_private twoClientsWaiting pids Kernel.empty⟩

end Paperd.Messaging
