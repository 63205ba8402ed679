/-
# The `libc` calls

The four System V calls that `messaging.rs` declares in its `mod libc`, with
the C conventions the program relies on: a failed call returns `-1` and sets
`errno`, `msgsnd` reads the caller's `Message` as memory and `msgrcv` writes
into it. Before the kernel sees a call, the environment may fail it. Every
call is made here with `msgflg = 0` apart from `msgget`'s creation flags.
-/

import Paperd.Messaging.Layout

namespace Paperd.Messaging.Libc

open Paperd.Sysv

/-- `IPC_CREAT`. -/
def IPC_CREAT : BitVec 32 := 0o1000

/-- `IPC_RMID`. -/
def IPC_RMID : BitVec 32 := 0

/-- A call the kernel answers with a result and a new table, or an error: the
environment's failure comes first; a failure sets `errno` and leaves the
table as it was. -/
def call {α : Type} (op : Kernel → Except Errno (α × Kernel)) (w : World) : Option α × World :=
  match w.nextFault with
  | (some e, w) => (none, { w with errno := e })
  | (none, w) =>
    match op w.kernel with
    | .ok (a, k) => (some a, { w with kernel := k })
    | .error e => (none, { w with errno := e })

/-- `msgget(key, msgflg)`: the queue's identifier, or `-1`. -/
def msgget (key msgflg : BitVec 32) (w : World) : BitVec 32 × World :=
  let (r, w) := call (·.msgget key (msgflg &&& IPC_CREAT != 0)) w
  (r.getD (-1), w)

/-- `msgsnd(msqid, msgp, msgsz, 0)`: queues `msgp`'s type and the first
`msgsz` bytes of its `Data`; `0`, or `-1`; `none` when the call waits for
ever, the queue having no room in a world where nothing else runs. A verdict
against the call, such as a signal, ends it, waiting or not. -/
def msgsnd (msqid : BitVec 32) (msgp : Message) (msgsz : Nat) (w : World) :
    Option (BitVec 32 × World) :=
  match w.nextFault with
  | (some e, w) => some (-1, { w with errno := e })
  | (none, w) =>
    match w.kernel.msgsnd msqid ⟨msgp.mType, msgp.data.toBytes.take msgsz⟩ with
    | .queued k => some (0, { w with kernel := k })
    | .failed e => some (-1, { w with errno := e })
    | .waits => none

/-- `msgrcv(msqid, msgp, msgsz, msgtyp, 0)`: the number of bytes delivered,
with the message's type and text written over `msgp`, or `-1` with `msgp`
untouched; `none` when the call waits forever, no message of the type being
there in a world where nothing else runs. -/
def msgrcv (msqid : BitVec 32) (msgp : Message) (msgsz : Nat) (msgtyp : BitVec 64)
    (w : World) : Option (BitVec 64 × Message × World) :=
  match w.nextFault with
  | (some e, w) => some (-1, msgp, { w with errno := e })
  | (none, w) =>
    match w.kernel.msgrcv msqid msgsz msgtyp with
    | .message m k =>
      some (BitVec.ofNat 64 m.mText.length, ⟨m.mType, msgp.data.overlay m.mText⟩,
        { w with kernel := k })
    | .failed e => some (-1, msgp, { w with errno := e })
    | .waits => none

/-- `msgctl(msqid, cmd, _)`: `0`, or `-1`. Only `IPC_RMID`, the one command the
program issues, is modelled; any other is refused with `EINVAL` here. -/
def msgctl (msqid cmd : BitVec 32) (w : World) : BitVec 32 × World :=
  let (r, w) := call (fun k =>
    if cmd = IPC_RMID then (k.rmid msqid).map ((), ·) else .error .EINVAL) w
  (if r.isSome then 0 else -1, w)

/-- A call to the kernel writes nothing on standard error. -/
@[simp] theorem call_stderr {α : Type} (op : Kernel → Except Errno (α × Kernel)) (w : World) :
    (call op w).2.stderr = w.stderr := by
  have used : w.nextFault.2.stderr = w.stderr := by rw [World.nextFault_snd]
  unfold call
  split
  · next w' fault => rw [fault] at used; exact used
  · next w' fault =>
    rw [fault] at used
    split <;> exact used

@[simp] theorem msgget_stderr (key msgflg : BitVec 32) (w : World) : (msgget key msgflg w).2.stderr = w.stderr := by
  simp [msgget]

theorem msgsnd_stderr {msqid : BitVec 32} {msgp : Message} {msgsz : Nat} {w w' : World} {r : BitVec 32}
    (sent : msgsnd msqid msgp msgsz w = some (r, w')) : w'.stderr = w.stderr := by
  have used : w.nextFault.2.stderr = w.stderr := by rw [World.nextFault_snd]
  unfold msgsnd at sent
  split at sent
  · next fault => cases sent; rw [fault] at used; exact used
  · next fault =>
    rw [fault] at used
    split at sent <;> cases sent <;> exact used

@[simp] theorem msgctl_stderr (msqid cmd : BitVec 32) (w : World) : (msgctl msqid cmd w).2.stderr = w.stderr := by
  simp [msgctl]

/-- `-1` never names a queue: identifiers stay below `MSGMNI`. -/
theorem ne_neg_one_of_live {k : Kernel} {msqid : BitVec 32} (live : (k.find? msqid).isSome) :
    msqid ≠ -1 := by
  have below := Kernel.lt_of_find? live
  rintro rfl
  simp [MSGMNI] at below

/-- Every way a `call` can end: the kernel's answer to the call with no
verdict against it, or a failure that sets `errno` and nothing else. -/
theorem call_cases {α : Type} (op : Kernel → Except Errno (α × Kernel)) (w : World) :
    (∃ a k, w.nextFault.1 = none ∧ op w.kernel = .ok (a, k) ∧
      call op w = (some a, { w.nextFault.2 with kernel := k })) ∨
    ∃ e, call op w = (none, { w.nextFault.2 with errno := e }) := by
  unfold call
  rcases hf : w.nextFault with ⟨_ | e, w₁⟩
  · have same : w₁.kernel = w.kernel := by
      have := congrArg (·.2.kernel) hf
      simp only [World.nextFault_snd] at this
      exact this.symm
    rcases hk : op w.kernel with e | ⟨a, k⟩
    · exact .inr ⟨e, by simp [same, hk]⟩
    · exact .inl ⟨a, k, rfl, rfl, by simp [same, hk]⟩
  · exact .inr ⟨e, rfl⟩

/-- Every way a `msgsnd` that returns can end: with no verdict against it, the
kernel queued the message or refused it; or the verdict failed it. A refusal
sets `errno` and nothing else. -/
theorem msgsnd_cases {msqid : BitVec 32} {m : Message} {msgsz : Nat} {w w' : World} {r : BitVec 32}
    (sent : msgsnd msqid m msgsz w = some (r, w')) :
    (r = 0 ∧ w.nextFault.1 = none ∧ ∃ k, w.kernel.msgsnd msqid ⟨m.mType, m.data.toBytes.take msgsz⟩ = .queued k ∧
      w' = { w.nextFault.2 with kernel := k }) ∨
    (r = -1 ∧ ∃ e, w' = { w.nextFault.2 with errno := e }) := by
  unfold msgsnd at sent
  rcases hf : w.nextFault with ⟨_ | e, w₁⟩ <;> rw [hf] at sent
  · have same : w₁.kernel = w.kernel := by
      have := congrArg (·.2.kernel) hf
      simp only [World.nextFault_snd] at this
      exact this.symm
    dsimp only at sent
    rw [same] at sent
    split at sent
    · next k queued => cases sent; exact .inl ⟨rfl, rfl, k, queued, rfl⟩
    · next e _ => cases sent; exact .inr ⟨rfl, e, by simp [same]⟩
    · cases sent
  · cases sent; exact .inr ⟨rfl, e, rfl⟩

/-- What a `msgsnd` that returned `0` did: with no verdict against it, the
message joined the back of the queue under `msqid`, which exists. -/
theorem msgsnd_eq_zero {msqid : BitVec 32} {m : Message} {msgsz : Nat} {w w' : World}
    (sent : msgsnd msqid m msgsz w = some (0, w')) :
    w.nextFault.1 = none ∧ ∃ q, w.kernel.find? msqid = some q ∧
      w' = { w.nextFault.2 with
        kernel := w.kernel.setMessages msqid (q.messages ++ [⟨m.mType, m.data.toBytes.take msgsz⟩]) } := by
  rcases msgsnd_cases sent with ⟨-, clear, k, queued, rfl⟩ | ⟨zero, -⟩
  · obtain ⟨q, found, -, -, -, rfl⟩ := Kernel.msgsnd_eq_queued.mp queued
    exact ⟨clear, q, found, rfl⟩
  · exact absurd zero (by decide)

/-- A `msgsnd` that returned something other than `0` returned `-1` and
changed only `errno` and the verdicts left. -/
theorem msgsnd_failed {msqid : BitVec 32} {m : Message} {msgsz : Nat} {w w' : World} {r : BitVec 32}
    (sent : msgsnd msqid m msgsz w = some (r, w')) (nonzero : r ≠ 0) :
    r = -1 ∧ ∃ e, w' = { w.nextFault.2 with errno := e } := by
  rcases msgsnd_cases sent with ⟨zero, -⟩ | failed
  · exact absurd zero nonzero
  · exact failed

/-- A `msgsnd` waits exactly when no verdict is against it and the kernel has
no room for the message on a live queue. -/
theorem msgsnd_eq_none {msqid : BitVec 32} {m : Message} {msgsz : Nat} {w : World} :
    msgsnd msqid m msgsz w = none ↔
      w.nextFault.1 = none ∧ w.kernel.msgsnd msqid ⟨m.mType, m.data.toBytes.take msgsz⟩ = .waits := by
  have kernelOf : w.nextFault.2.kernel = w.kernel := by rw [World.nextFault_snd]
  unfold msgsnd
  rcases hf : w.nextFault with ⟨_ | e, w₁⟩ <;> rw [hf] at kernelOf
  · dsimp only
    rw [kernelOf]
    split <;> simp_all
  · simp

/-- With the next verdict letting it through and room on its queue, a
frame-sized `msgsnd` of a positive type is accepted; it uses up that verdict. -/
theorem msgsnd_of_pass {msqid : BitVec 32} {m : Message} {msgsz : Nat} {w : World} {q : MsgQueue}
    (pass : w.nextFault.1 = none) (found : w.kernel.find? msqid = some q) (typed : 1 ≤ m.mType.toInt)
    (small : msgsz ≤ MSGMAX) (room : q.fits msgsz) :
    msgsnd msqid m msgsz w = some (0, { w.nextFault.2 with
      kernel := w.kernel.setMessages msqid (q.messages ++ [⟨m.mType, m.data.toBytes.take msgsz⟩]) }) := by
  have accepted : w.kernel.msgsnd msqid ⟨m.mType, m.data.toBytes.take msgsz⟩ =
      .queued (w.kernel.setMessages msqid (q.messages ++ [⟨m.mType, m.data.toBytes.take msgsz⟩])) :=
    Kernel.msgsnd_eq_queued.mpr ⟨q, found, typed, (List.length_take_le _ _).trans small,
      MsgQueue.fits_of_le (List.length_take_le _ _) room, rfl⟩
  have next : w.nextFault = (none, { w with faults := w.faults.tail }) :=
    Prod.ext pass (World.nextFault_snd w)
  simp [msgsnd, next, accepted, World.nextFault_snd]

/-- With no verdict against it, a `msgsnd` of a positive type and at most
`MSGMAX` bytes to a live queue never fails: it queues the message when there
is room for it, and otherwise waits. -/
theorem msgsnd_of_live {msqid : BitVec 32} {m : Message} {msgsz : Nat} {w : World} {q : MsgQueue}
    (noFault : w.faults = []) (found : w.kernel.find? msqid = some q) (typed : 1 ≤ m.mType.toInt)
    (small : msgsz ≤ MSGMAX) :
    msgsnd msqid m msgsz w = if q.fits (m.data.toBytes.take msgsz).length then
      some (0, { w with kernel := w.kernel.setMessages msqid (q.messages ++ [⟨m.mType, m.data.toBytes.take msgsz⟩]) })
      else none := by
  have acceptable : ¬(m.mType.toInt < 1 ∨ MSGMAX < (m.data.toBytes.take msgsz).length) := by
    have := List.length_take_le msgsz m.data.toBytes
    omega
  simp only [msgsnd, World.nextFault_nil w noFault, Kernel.msgsnd, found, if_neg acceptable]
  split_ifs <;> rfl

/-- What a `msgget` that returned something other than `-1` did: with no
verdict against it, the kernel answered with that queue. -/
theorem msgget_ne_neg_one {key msgflg msqid : BitVec 32} {w w' : World}
    (h : msgget key msgflg w = (msqid, w')) (ok : msqid ≠ -1) :
    ∃ k, w.kernel.msgget key (msgflg &&& IPC_CREAT != 0) = .ok (msqid, k) ∧
      w' = { w.nextFault.2 with kernel := k } := by
  unfold msgget at h
  rcases call_cases (·.msgget key (msgflg &&& IPC_CREAT != 0)) w with ⟨a, k, -, got, eq⟩ | ⟨e, eq⟩ <;>
    rw [eq] at h
  · simp only [Option.getD_some, Prod.mk.injEq] at h
    obtain ⟨rfl, rfl⟩ := h
    exact ⟨k, got, rfl⟩
  · simp only [Option.getD_none, Prod.mk.injEq] at h
    exact absurd h.1.symm ok

/-- With no verdict against it, `msgget` under a key that names a queue hands
that queue back and changes nothing. -/
theorem msgget_of_keyed {key msgflg msqid : BitVec 32} {w : World} (noFault : w.faults = [])
    (public : key ≠ IPC_PRIVATE) (keyed : w.kernel.keyed? key = some msqid) :
    msgget key msgflg w = (msqid, w) := by
  simp [msgget, call, World.nextFault_nil w noFault, Kernel.msgget_of_keyed public keyed]

/-- Every way a `msgrcv` that returns can end: a delivery of the oldest
message of the type, with no verdict against the call, or `-1` with the buffer
untouched and only `errno` and the verdicts left changed. -/
theorem msgrcv_cases {msqid : BitVec 32} {msgp m : Message} {msgsz : Nat} {msgtyp res : BitVec 64}
    {w w₁ : World} (h : msgrcv msqid msgp msgsz msgtyp w = some (res, m, w₁)) :
    (∃ qm k, w.nextFault.1 = none ∧ w.kernel.msgrcv msqid msgsz msgtyp = .message qm k ∧
      res = BitVec.ofNat 64 qm.mText.length ∧ m = ⟨qm.mType, msgp.data.overlay qm.mText⟩ ∧
      w₁ = { w.nextFault.2 with kernel := k }) ∨
    (res = -1 ∧ m = msgp ∧ ∃ e, w₁ = { w.nextFault.2 with errno := e }) := by
  unfold msgrcv at h
  rcases hf : w.nextFault with ⟨_ | e, w'⟩ <;> rw [hf] at h <;> dsimp only at h ⊢
  · have same : w'.kernel = w.kernel := by
      simpa [World.nextFault_snd] using (congrArg (·.2.kernel) hf).symm
    rw [same] at h
    rcases hk : w.kernel.msgrcv msqid msgsz msgtyp with ⟨qm, k⟩ | e | _ <;> rw [hk] at h <;> cases h
    · exact .inl ⟨qm, k, rfl, rfl, rfl, rfl, rfl⟩
    · exact .inr ⟨rfl, rfl, e, by rw [same]⟩
  · cases h
    exact .inr ⟨rfl, rfl, e, rfl⟩

/-- A `msgrcv` that returns something other than `-1` delivered the oldest
message of the type, which fitted in `msgsz` and left the queue. -/
theorem msgrcv_delivered {msqid : BitVec 32} {msgp m : Message} {msgsz : Nat} {msgtyp res : BitVec 64}
    {w w₁ : World} (h : msgrcv msqid msgp msgsz msgtyp w = some (res, m, w₁)) (ok : res ≠ -1) :
    ∃ qm k, w.nextFault.1 = none ∧ w.kernel.msgrcv msqid msgsz msgtyp = .message qm k ∧
      res = BitVec.ofNat 64 qm.mText.length ∧ m = ⟨qm.mType, msgp.data.overlay qm.mText⟩ ∧
      w₁ = { w.nextFault.2 with kernel := k } := by
  rcases msgrcv_cases h with delivered | ⟨failed, -⟩
  · exact delivered
  · exact absurd failed ok

/-- A `msgrcv` that returns something other than `-1` took one message off its
queue: the measure the receive loop runs down. -/
theorem waiting_msgrcv {msqid : BitVec 32} {msgp m : Message} {msgsz : Nat} {msgtyp res : BitVec 64}
    {w w₁ : World} (h : msgrcv msqid msgp msgsz msgtyp w = some (res, m, w₁)) (ok : res ≠ -1) :
    w₁.kernel.waiting msqid < w.kernel.waiting msqid := by
  obtain ⟨qm, k, -, taken, -, -, rfl⟩ := msgrcv_delivered h ok
  exact Kernel.waiting_msgrcv taken

/-- `msgrcv` changes neither the pid nor what was written to `stderr`. -/
theorem msgrcv_frame {msqid : BitVec 32} {msgp m : Message} {msgsz : Nat} {msgtyp res : BitVec 64}
    {w w₁ : World} (h : msgrcv msqid msgp msgsz msgtyp w = some (res, m, w₁)) :
    w₁.pid = w.pid ∧ w₁.stderr = w.stderr := by
  rcases msgrcv_cases h with ⟨-, -, -, -, -, -, rfl⟩ | ⟨-, -, -, rfl⟩ <;>
    simp [World.nextFault_snd]

/-- With no verdict against it, `msgrcv` on a queue whose oldest message of the
type is `m`, behind messages of other types, delivers `m` over the buffer and
takes it off the queue. -/
theorem msgrcv_of_first {msqid : BitVec 32} {msgp : Message} {msgsz : Nat} {msgtyp : BitVec 64}
    {w : World} {q : MsgQueue} {other rest : List QueuedMessage} {m : QueuedMessage}
    (noFault : w.faults = []) (found : w.kernel.find? msqid = some q)
    (layout : q.messages = other ++ m :: rest) (skipped : ∀ o ∈ other, o.mType ≠ msgtyp)
    (typed : m.mType = msgtyp) (fits : m.mText.length ≤ msgsz) :
    msgrcv msqid msgp msgsz msgtyp w = some (BitVec.ofNat 64 m.mText.length,
      ⟨m.mType, msgp.data.overlay m.mText⟩,
      { w with kernel := w.kernel.setMessages msqid (other ++ rest) }) := by
  simp only [msgrcv, World.nextFault_nil w noFault,
    Kernel.msgrcv_of_first found layout skipped typed fits]

end Paperd.Messaging.Libc
