/-
# System V message queues

The kernel side of the transport, as `msgget(2)`, `msgsnd(2)`, `msgrcv(2)` and
`msgctl(2)` describe it for the calls the program makes: a table of live
queues, each under an identifier and a key, each a FIFO of typed messages.
The table carries its own invariant (distinct identifiers below `MSGMNI`, one
queue per public key), so no operation can build a table the kernel could not
hold.

A process sees the table through `World`, which also holds its pid, `errno`,
what it has written to standard error, and the failures the environment has
in store for its next calls (a signal, a concurrent removal, a resource
limit). A queue holds at most `MSGMNB` bytes of text: a `msgsnd` that would
pass it waits, as `msgrcv` waits on a queue with nothing of its type. Left out:
permissions (every queue here is created `0o666`; in particular `IPC_RMID` by a
process that does not own the queue, which Linux refuses with `EPERM`), the
sequence number Linux adds to a reused index so that a removed queue's
identifier stays invalid, and the `msgtyp ≤ 0` selection modes of `msgrcv`,
which the program never uses.
-/

import Mathlib.Data.List.Perm.Subperm
import Mathlib.Data.List.Nodup

namespace Paperd.Sysv

/-- The error numbers these calls set, as `nix::errno::Errno` names them. -/
inductive Errno
  | UnknownErrno | EPERM | ENOENT | EINTR | E2BIG | ENOMEM | EACCES | EFAULT
  | EEXIST | EINVAL | ENOSPC | EAGAIN | ENOMSG | EIDRM
  deriving DecidableEq, Repr

/-- `Errno::desc`: the text the program prints after a failed call. -/
def Errno.desc : Errno → String
  | .UnknownErrno => "Unknown errno"
  | .EPERM => "Operation not permitted"
  | .ENOENT => "No such file or directory"
  | .EINTR => "Interrupted system call"
  | .E2BIG => "Argument list too long"
  | .ENOMEM => "Out of memory"
  | .EACCES => "Permission denied"
  | .EFAULT => "Bad address"
  | .EEXIST => "File exists"
  | .EINVAL => "Invalid argument"
  | .ENOSPC => "No space left on device"
  | .EAGAIN => "Try again"
  | .ENOMSG => "No message of desired type"
  | .EIDRM => "Identifier removed"

/-- `IPC_PRIVATE`: the key under which `msgget` always makes a new queue. -/
def IPC_PRIVATE : BitVec 32 := 0

/-- `MSGMNI`: how many queues the table holds. -/
def MSGMNI : Nat := 32000

/-- `PID_MAX_LIMIT`: no pid Linux hands out is above it (`pid_max` is at most
`2^22`). -/
def PID_MAX_LIMIT : Nat := 4194304

/-- `MSGMAX`: the longest text `msgsnd` accepts. -/
def MSGMAX : Nat := 8192

/-- `MSGMNB`: the byte limit `msg_qbytes` a new queue gets, the default of
`/proc/sys/kernel/msgmnb`; the program never changes it. -/
def MSGMNB : Nat := 16384

/-- A queued message: its type (an `mtype`, a `c_long`) and its text. -/
structure QueuedMessage where
  mType : BitVec 64
  mText : List UInt8
  deriving DecidableEq, Repr

/-- One queue: the key it was created under and its messages, oldest first. -/
structure MsgQueue where
  key : BitVec 32
  messages : List QueuedMessage
  deriving DecidableEq, Repr

/-- `q_cbytes`: the bytes of text on the queue. -/
def MsgQueue.cbytes (q : MsgQueue) : Nat := q.messages.foldr (fun m n => m.mText.length + n) 0

/-- `msg_fits_inqueue`: room for `msgsz` more bytes and one more message. -/
def MsgQueue.fits (q : MsgQueue) (msgsz : Nat) : Prop :=
  msgsz + q.cbytes ≤ MSGMNB ∧ 1 + q.messages.length ≤ MSGMNB

instance (q : MsgQueue) (msgsz : Nat) : Decidable (q.fits msgsz) :=
  inferInstanceAs (Decidable (_ ∧ _))

/-- A message at the back adds its text to the queue's bytes. -/
@[simp] theorem MsgQueue.cbytes_push (q : MsgQueue) (m : QueuedMessage) :
    { q with messages := q.messages ++ [m] }.cbytes = q.cbytes + m.mText.length := by
  show (q.messages ++ [m]).foldr _ 0 = q.messages.foldr _ 0 + m.mText.length
  induction q.messages with
  | nil => simp
  | cons x xs ih => simp only [List.cons_append, List.foldr_cons, ih, Nat.add_assoc]

theorem MsgQueue.fits_of_le {q : MsgQueue} {n m : Nat} (le : n ≤ m) (room : q.fits m) : q.fits n :=
  ⟨(Nat.add_le_add_right le _).trans room.1, room.2⟩

/-- The queue with `ms` appended at the back. -/
def MsgQueue.push (q : MsgQueue) (ms : List QueuedMessage) : MsgQueue :=
  { q with messages := q.messages ++ ms }

@[simp] theorem MsgQueue.push_nil (q : MsgQueue) : q.push [] = q := by
  simp [MsgQueue.push]

@[simp] theorem MsgQueue.push_push (q : MsgQueue) (ms ms' : List QueuedMessage) :
    (q.push ms).push ms' = q.push (ms ++ ms') := by
  simp [MsgQueue.push]

/-- The kernel's table of live queues, each under its identifier. Identifiers
are distinct and below `MSGMNI`; no two queues share a key other than
`IPC_PRIVATE`. -/
structure Kernel where
  queues : List (BitVec 32 × MsgQueue)
  ids_nodup : (queues.map Prod.fst).Nodup
  ids_lt : ∀ e ∈ queues, e.1.toNat < MSGMNI
  keys_unique : ∀ e ∈ queues, ∀ f ∈ queues, e.2.key = f.2.key → e.2.key ≠ IPC_PRIVATE → e = f

namespace Kernel

/-- The table with no queue, as at boot. -/
def empty : Kernel := ⟨[], List.nodup_nil, by simp, by simp⟩

/-- A table with one queue, id 0, created under `key` and holding `messages`. -/
def single (key : BitVec 32) (messages : List QueuedMessage) : Kernel :=
  ⟨[(0, ⟨key, messages⟩)], by simp, by simp [MSGMNI], by simp⟩

/-- The identifiers in use. -/
def ids (k : Kernel) : List (BitVec 32) := k.queues.map Prod.fst

/-- The queue under `msqid`. -/
def find? (k : Kernel) (msqid : BitVec 32) : Option MsgQueue := k.queues.lookup msqid

/-- The identifier of the queue created under `key`. -/
def keyed? (k : Kernel) (key : BitVec 32) : Option (BitVec 32) :=
  (k.queues.find? fun e => e.2.key == key).map Prod.fst

/-- The least index that no queue uses: where `msgget` puts a new queue. -/
def freeIndex (k : Kernel) : Nat :=
  ((List.range (k.queues.length + 1)).find? fun n => BitVec.ofNat 32 n ∉ k.ids).getD 0

/-- How many messages wait in the queue under `msqid`. -/
def waiting (k : Kernel) (msqid : BitVec 32) : Nat :=
  ((k.find? msqid).map fun q => q.messages.length).getD 0

theorem keyed?_eq_none {k : Kernel} {key : BitVec 32} :
    k.keyed? key = none ↔ ∀ e ∈ k.queues, e.2.key ≠ key := by
  simp [keyed?]

/-- The least free index is free, and no larger than the number of queues: among the
`length + 1` candidates at least one is unused. -/
theorem freeIndex_spec (k : Kernel) (room : k.queues.length < MSGMNI) :
    BitVec.ofNat 32 k.freeIndex ∉ k.ids ∧ k.freeIndex ≤ k.queues.length := by
  unfold freeIndex
  cases found : (List.range (k.queues.length + 1)).find? fun n => BitVec.ofNat 32 n ∉ k.ids with
  | some n =>
    have free := List.find?_some found
    have candidate := List.mem_range.mp (List.mem_of_find?_eq_some found)
    simp only [decide_eq_true_eq] at free
    exact ⟨free, by simpa using Nat.lt_succ_iff.mp candidate⟩
  | none =>
    exfalso
    have used : (List.range (k.queues.length + 1)).map (BitVec.ofNat 32) ⊆ k.ids := by
      intro id member
      obtain ⟨n, hn, rfl⟩ := List.mem_map.mp member
      simpa using List.find?_eq_none.mp found n hn
    have distinct : ((List.range (k.queues.length + 1)).map (BitVec.ofNat 32)).Nodup := by
      refine (List.nodup_range _).map_on fun m hm n hn same => ?_
      have hm' := List.mem_range.mp hm
      have hn' := List.mem_range.mp hn
      have := congrArg BitVec.toNat same
      simp only [BitVec.toNat_ofNat] at this
      unfold MSGMNI at room
      rwa [Nat.mod_eq_of_lt (by omega), Nat.mod_eq_of_lt (by omega)] at this
    have := (List.subperm_of_subset distinct used).length_le
    simp only [List.length_map, List.length_range, ids] at this
    omega

/-- The table with the messages of the queue under `msqid` replaced. -/
def setMessages (k : Kernel) (msqid : BitVec 32) (messages : List QueuedMessage) : Kernel where
  queues := k.queues.map fun e => (e.1, if e.1 = msqid then { e.2 with messages } else e.2)
  ids_nodup := by
    rw [List.map_map]
    exact k.ids_nodup
  ids_lt := by
    simp only [List.mem_map]
    rintro _ ⟨e, he, rfl⟩
    exact k.ids_lt e he
  keys_unique := by
    simp only [List.mem_map]
    rintro _ ⟨e, he, rfl⟩ _ ⟨f, hf, rfl⟩ same public
    have keyOf : ∀ g : BitVec 32 × MsgQueue,
        (if g.1 = msqid then { g.2 with messages } else g.2).key = g.2.key := by
      intro g; split <;> rfl
    rw [keyOf, keyOf] at same
    rw [keyOf] at public
    rw [k.keys_unique e he f hf same public]

/-- Tables with the same queues are the same table. -/
theorem ext {k k' : Kernel} (h : k.queues = k'.queues) : k = k' := by
  cases k; cases k'; cases h; rfl

/-- Replacing a queue's messages twice keeps the second replacement. -/
@[simp] theorem setMessages_setMessages (k : Kernel) (msqid : BitVec 32)
    (messages messages' : List QueuedMessage) :
    (k.setMessages msqid messages).setMessages msqid messages' = k.setMessages msqid messages' := by
  refine ext ?_
  simp only [setMessages, List.map_map]
  refine List.map_congr_left fun e _ => ?_
  by_cases here : e.1 = msqid <;> simp [here]

/-- Setting a queue's messages to the ones it holds changes nothing. -/
theorem setMessages_of_find? {k : Kernel} {msqid : BitVec 32} {q : MsgQueue} (found : k.find? msqid = some q) :
    k.setMessages msqid q.messages = k := by
  obtain ⟨l₁, l₂, layout, before⟩ := List.lookup_eq_some_iff.mp found
  have nodup := k.ids_nodup
  rw [layout, List.map_append, List.map_cons, List.nodup_append, List.nodup_cons] at nodup
  have keep : ∀ l : List (BitVec 32 × MsgQueue), (∀ p ∈ l, p.1 ≠ msqid) →
      l.map (fun e => (e.1, if e.1 = msqid then { e.2 with messages := q.messages } else e.2)) = l := by
    intro l apart
    conv_rhs => rw [← List.map_id l]
    exact List.map_congr_left fun p mem => by simp [apart p mem]
  refine ext ?_
  show k.queues.map _ = k.queues
  rw [layout, List.map_append, List.map_cons, keep l₁ fun p mem same => bne_iff_ne.mp (before p mem) same.symm,
    keep l₂ fun p mem same => nodup.2.1.1 (List.mem_map.mpr ⟨p, mem, same⟩)]
  simp

/-- The table without the queue under `msqid`. -/
def remove (k : Kernel) (msqid : BitVec 32) : Kernel where
  queues := k.queues.filter fun e => e.1 ≠ msqid
  ids_nodup := k.ids_nodup.sublist ((List.filter_sublist _).map _)
  ids_lt := fun e he => k.ids_lt e (List.mem_of_mem_filter he)
  keys_unique := fun e he f hf =>
    k.keys_unique e (List.mem_of_mem_filter he) f (List.mem_of_mem_filter hf)

/-- The table with a new, empty queue under `key`, at the least free index. -/
def create (k : Kernel) (key : BitVec 32) (room : k.queues.length < MSGMNI)
    (fresh : key ≠ IPC_PRIVATE → ∀ e ∈ k.queues, e.2.key ≠ key) : Kernel where
  queues := k.queues ++ [(BitVec.ofNat 32 k.freeIndex, ⟨key, []⟩)]
  ids_nodup := by
    rw [List.map_append, List.nodup_append]
    exact ⟨k.ids_nodup, List.nodup_singleton _, by
      simpa [List.disjoint_singleton, ids] using (freeIndex_spec k room).1⟩
  ids_lt := by
    have bound := (freeIndex_spec k room).2
    unfold MSGMNI at room ⊢
    simp only [List.mem_append, List.mem_singleton]
    rintro e (he | rfl)
    · exact k.ids_lt e he
    · simp only [BitVec.toNat_ofNat]
      omega
  keys_unique := by
    simp only [List.mem_append, List.mem_singleton]
    rintro e (he | rfl) f (hf | rfl) same public
    · exact k.keys_unique e he f hf same public
    · exact absurd same (fresh (fun h => public (same.trans h)) e he)
    · exact absurd same.symm (fresh public f hf)
    · rfl

private theorem lookup_map_snd {β γ : Type} (l : List (BitVec 32 × β))
    (g : BitVec 32 → β → γ) (a : BitVec 32) :
    (l.map fun e => (e.1, g e.1 e.2)).lookup a = (l.lookup a).map (g a) := by
  induction l with
  | nil => rfl
  | cons e l ih =>
    obtain ⟨id, q⟩ := e
    by_cases h : a = id
    · subst h; simp [List.lookup_cons]
    · simp [List.lookup_cons, beq_false_of_ne h, ih]

private theorem lookup_filter_ne {β : Type} (l : List (BitVec 32 × β)) (msqid a : BitVec 32) :
    (l.filter fun e => e.1 ≠ msqid).lookup a = if a = msqid then none else l.lookup a := by
  induction l with
  | nil => split <;> rfl
  | cons e l ih =>
    obtain ⟨id, q⟩ := e
    by_cases he : id = msqid
    · subst he
      by_cases ha : a = id
      · simpa [List.filter_cons, ha] using ih
      · simpa [List.filter_cons, ha, List.lookup_cons, beq_false_of_ne ha] using ih
    · by_cases ha : a = id
      · subst ha; simp [List.filter_cons, he, List.lookup_cons]
      · simpa [List.filter_cons, he, ha, List.lookup_cons, beq_false_of_ne ha] using ih

@[simp] theorem find?_setMessages (k : Kernel) (msqid a : BitVec 32) (messages : List QueuedMessage) :
    (k.setMessages msqid messages).find? a =
      (k.find? a).map fun q => if a = msqid then { q with messages } else q := by
  exact lookup_map_snd k.queues
    (fun id (q : MsgQueue) => if id = msqid then ({ q with messages } : MsgQueue) else q) a

@[simp] theorem find?_remove (k : Kernel) (msqid a : BitVec 32) :
    (k.remove msqid).find? a = if a = msqid then none else k.find? a :=
  lookup_filter_ne k.queues msqid a

theorem mem_ids_iff (k : Kernel) (msqid : BitVec 32) : msqid ∈ k.ids ↔ (k.find? msqid).isSome := by
  simp [ids, find?, List.lookup_isSome_iff]

private theorem fresh_of_found {k : Kernel} {key : BitVec 32}
    (found : (if key = IPC_PRIVATE then none else k.keyed? key) = none) :
    key ≠ IPC_PRIVATE → ∀ e ∈ k.queues, e.2.key ≠ key := fun public => by
  rw [if_neg public] at found
  exact keyed?_eq_none.mp found

/-- `msgget(key, msgflg)`: the queue created under `key`; or, when `create`
(`IPC_CREAT` in `msgflg`) is set and there is none or `key` is `IPC_PRIVATE`,
a new one, with `ENOSPC` when the table is full. -/
def msgget (k : Kernel) (key : BitVec 32) (create : Bool) : Except Errno (BitVec 32 × Kernel) :=
  match found : (if key = IPC_PRIVATE then none else k.keyed? key) with
  | some msqid => .ok (msqid, k)
  | none =>
    if !create then .error .ENOENT
    else if room : k.queues.length < MSGMNI then
      .ok (BitVec.ofNat 32 k.freeIndex, k.create key room (fresh_of_found found))
    else .error .ENOSPC

/-- A live identifier is an index of the table, below `MSGMNI`. -/
theorem lt_of_find? {k : Kernel} {msqid : BitVec 32} (live : (k.find? msqid).isSome) :
    msqid.toNat < MSGMNI := by
  obtain ⟨q, mem⟩ : ∃ q, (msqid, q) ∈ k.queues := by simpa [find?] using live
  exact k.ids_lt _ mem

/-- The queue created under a key is in the table. -/
theorem find?_of_keyed? {k : Kernel} {key msqid : BitVec 32} (keyed : k.keyed? key = some msqid) :
    (k.find? msqid).isSome := by
  obtain ⟨q, first⟩ : ∃ q, k.queues.find? (fun e => e.2.key == key) = some (msqid, q) := by
    simpa [keyed?] using keyed
  simpa [find?] using ⟨q, List.mem_of_find?_eq_some first⟩

private theorem lookup_of_mem {β : Type} {l : List (BitVec 32 × β)} (nodup : (l.map Prod.fst).Nodup)
    {a : BitVec 32} {b : β} (mem : (a, b) ∈ l) : l.lookup a = some b := by
  induction l with
  | nil => cases mem
  | cons e l ih =>
    obtain ⟨a', b'⟩ := e
    rw [List.map_cons, List.nodup_cons] at nodup
    rcases List.mem_cons.mp mem with same | later
    · cases same
      simp [List.lookup_cons]
    · have apart : a ≠ a' := fun same => nodup.1 (same ▸ List.mem_map.mpr ⟨_, later, rfl⟩)
      simp [List.lookup_cons, beq_false_of_ne apart, ih nodup.2 later]

/-- The queue found under a key was created under that key. -/
theorem find?_keyed? {k : Kernel} {key msqid : BitVec 32} (keyed : k.keyed? key = some msqid) :
    ∃ q, k.find? msqid = some q ∧ q.key = key := by
  obtain ⟨q, first⟩ : ∃ q, k.queues.find? (fun e => e.2.key == key) = some (msqid, q) := by
    simpa [keyed?] using keyed
  exact ⟨q, lookup_of_mem k.ids_nodup (List.mem_of_find?_eq_some first), by simpa using List.find?_some first⟩

private theorem mem_of_lookup {β : Type} {l : List (BitVec 32 × β)} {a : BitVec 32} {b : β}
    (found : l.lookup a = some b) : (a, b) ∈ l := by
  obtain ⟨l₁, l₂, split, -⟩ := List.lookup_eq_some_iff.mp found
  rw [split]
  exact List.mem_append_right _ (List.mem_cons_self _ _)

/-- Two live queues under one key other than `IPC_PRIVATE` are one queue. -/
theorem eq_of_key {k : Kernel} {a b : BitVec 32} {qa qb : MsgQueue} (foundA : k.find? a = some qa)
    (foundB : k.find? b = some qb) (same : qa.key = qb.key) (public : qa.key ≠ IPC_PRIVATE) : a = b :=
  congrArg Prod.fst (k.keys_unique _ (mem_of_lookup foundA) _ (mem_of_lookup foundB) same public)

/-- A live queue under a key other than `IPC_PRIVATE` is the one `msgget`
finds under that key. -/
theorem keyed?_of_find? {k : Kernel} {a : BitVec 32} {q : MsgQueue} (found : k.find? a = some q)
    (public : q.key ≠ IPC_PRIVATE) : k.keyed? q.key = some a := by
  cases keyed : k.keyed? q.key with
  | none => exact absurd rfl (keyed?_eq_none.mp keyed _ (mem_of_lookup found))
  | some b =>
    obtain ⟨qb, foundB, key⟩ := find?_keyed? keyed
    rw [eq_of_key foundB found key (key ▸ public)]

/-- Creating a queue keeps every queue that was there. -/
theorem find?_create {k : Kernel} {key : BitVec 32} {room : k.queues.length < MSGMNI}
    {fresh : key ≠ IPC_PRIVATE → ∀ e ∈ k.queues, e.2.key ≠ key} {a : BitVec 32}
    (live : (k.find? a).isSome) : ((k.create key room fresh).find? a).isSome := by
  obtain ⟨q, found⟩ := Option.isSome_iff_exists.mp live
  simp only [find?, Kernel.create, List.lookup_append]
  rw [show k.queues.lookup a = some q from found]
  rfl

/-- No queue is under the least free index. -/
theorem find?_freeIndex (k : Kernel) (room : k.queues.length < MSGMNI) :
    k.find? (BitVec.ofNat 32 k.freeIndex) = none :=
  Option.not_isSome_iff_eq_none.mp fun live => (freeIndex_spec k room).1 ((mem_ids_iff _ _).mpr live)

/-- The new queue sits, empty, at the least free index; every other queue is
as it was. -/
theorem find?_create_eq (k : Kernel) (key : BitVec 32) (room : k.queues.length < MSGMNI)
    (fresh : key ≠ IPC_PRIVATE → ∀ e ∈ k.queues, e.2.key ≠ key) (a : BitVec 32) :
    (k.create key room fresh).find? a =
      if a = BitVec.ofNat 32 k.freeIndex then some ⟨key, []⟩ else k.find? a := by
  have free := find?_freeIndex k room
  simp only [find?, create, List.lookup_append] at free ⊢
  split
  · next here => simp [here, free, List.lookup_cons]
  · next other => cases k.queues.lookup a <;> simp [List.lookup_cons, beq_false_of_ne other]

/-- A `msgget` that succeeded names a queue of the table it leaves, the one
already created under the key or the one it creates, and keeps every queue
that was there. -/
theorem msgget_live {k k' : Kernel} {key msqid : BitVec 32} {create : Bool}
    (h : k.msgget key create = .ok (msqid, k')) :
    (k'.find? msqid).isSome ∧ ∀ a, (k.find? a).isSome → (k'.find? a).isSome := by
  unfold msgget at h
  split at h
  · next found =>
    cases h
    split at found
    · cases found
    · exact ⟨find?_of_keyed? found, fun _ live => live⟩
  · split at h
    · cases h
    · split at h
      · cases h
        exact ⟨by simp [find?, Kernel.create], fun _ live => find?_create live⟩
      · cases h

/-- `msgget` under a key that names a queue hands that queue back and changes
nothing. -/
theorem msgget_of_keyed {k : Kernel} {key msqid : BitVec 32} {create : Bool}
    (public : key ≠ IPC_PRIVATE) (keyed : k.keyed? key = some msqid) : k.msgget key create = .ok (msqid, k) := by
  unfold msgget
  split
  · next same found => rw [if_neg public, keyed] at found; cases found; rfl
  · next missing => rw [if_neg public, keyed] at missing; cases missing

/-- A `msgget` that succeeded hands back a queue created under its key, and
leaves every queue that was there as it was. -/
theorem msgget_key {k k' : Kernel} {key msqid : BitVec 32} {create : Bool}
    (h : k.msgget key create = .ok (msqid, k')) :
    (∃ q, k'.find? msqid = some q ∧ q.key = key) ∧ ∀ a q, k.find? a = some q → k'.find? a = some q := by
  unfold msgget at h
  split at h
  · next found =>
    cases h
    split at found
    · cases found
    · exact ⟨find?_keyed? found, fun _ _ => id⟩
  · split at h
    · cases h
    · split at h
      · next room =>
        cases h
        refine ⟨⟨_, (find?_create_eq k key room _ _).trans (if_pos rfl), rfl⟩, fun a q found => ?_⟩
        have taken : a ≠ BitVec.ofNat 32 k.freeIndex := by
          rintro rfl
          rw [find?_freeIndex k room] at found
          cases found
        rw [find?_create_eq, if_neg taken, found]
      · cases h

/-- After a successful `msgget` under a key other than `IPC_PRIVATE`, the key
names the queue it returned. -/
theorem msgget_keyed {k k' : Kernel} {key msqid : BitVec 32} {create : Bool}
    (h : k.msgget key create = .ok (msqid, k')) (public : key ≠ IPC_PRIVATE) : k'.keyed? key = some msqid := by
  unfold msgget at h
  split at h
  · next found => cases h; rwa [if_neg public] at found
  · next missing =>
    split at h
    · cases h
    · split at h
      · cases h
        have first : k.queues.find? (fun e => e.2.key == key) = none := by
          simpa [keyed?, if_neg public] using missing
        simp [keyed?, Kernel.create, List.find?_append, first]
      · cases h

/-- With room in the table, a creating `msgget` succeeds. -/
theorem msgget_of_room {k : Kernel} {key : BitVec 32} (room : k.queues.length < MSGMNI) :
    ∃ msqid k', k.msgget key true = .ok (msqid, k') := by
  unfold msgget
  split
  · exact ⟨_, _, rfl⟩
  · simp only [Bool.not_true, Bool.false_eq_true, ↓reduceIte, dif_pos room]
    exact ⟨_, _, rfl⟩

/-- A creating `msgget` under a key that names no queue, with room in the
table, creates an empty queue under a fresh identifier and changes nothing
else. -/
theorem msgget_fresh {k : Kernel} {key : BitVec 32} (room : k.queues.length < MSGMNI)
    (unused : k.keyed? key = none) :
    ∃ msqid k', k.msgget key true = .ok (msqid, k') ∧ k.find? msqid = none ∧
      ∀ a, k'.find? a = if a = msqid then some ⟨key, []⟩ else k.find? a := by
  have missing : (if key = IPC_PRIVATE then none else k.keyed? key) = none := by
    split <;> simp [unused]
  refine ⟨_, k.create key room (fresh_of_found missing), ?_, find?_freeIndex k room,
    find?_create_eq k key room _⟩
  unfold msgget
  split
  · next found => rw [missing] at found; cases found
  · simp only [Bool.not_true, Bool.false_eq_true, ↓reduceIte, dif_pos room]

/-- What `msgsnd` does: the message joins its queue, the call fails, or the
queue is full and the caller waits for a reader to make room. -/
inductive Sent
  | queued (k : Kernel)
  | failed (e : Errno)
  | waits

/-- `msgsnd(msqid, msgp, msgsz, 0)`: `m` joins the back of the queue under
`msqid` when it fits there, and otherwise the caller waits; `EINVAL` when
there is no such queue, `m`'s type is below 1, or its text is longer than
`MSGMAX`. -/
def msgsnd (k : Kernel) (msqid : BitVec 32) (m : QueuedMessage) : Sent :=
  match k.find? msqid with
  | none => .failed .EINVAL
  | some q =>
    if m.mType.toInt < 1 ∨ MSGMAX < m.mText.length then .failed .EINVAL
    else if q.fits m.mText.length then .queued (k.setMessages msqid (q.messages ++ [m]))
    else .waits

/-- What a successful `msgsnd` did: the queue exists, the message is acceptable
and fits, and it joined the back of the queue. -/
theorem msgsnd_eq_queued {k k' : Kernel} {msqid : BitVec 32} {m : QueuedMessage} :
    k.msgsnd msqid m = .queued k' ↔ ∃ q, k.find? msqid = some q ∧ 1 ≤ m.mType.toInt ∧
      m.mText.length ≤ MSGMAX ∧ q.fits m.mText.length ∧ k' = k.setMessages msqid (q.messages ++ [m]) := by
  unfold msgsnd
  split
  · simp_all
  · next q found =>
    simp only [found, Option.some.injEq, exists_eq_left']
    split
    · next bad =>
      simp only [reduceCtorEq, false_iff]
      rintro ⟨lo, hi, -, -⟩
      omega
    · split
      · next room =>
        simp only [Sent.queued.injEq]
        constructor
        · rintro rfl; exact ⟨by omega, by omega, room, rfl⟩
        · rintro ⟨-, -, -, rfl⟩; rfl
      · next full =>
        simp only [reduceCtorEq, false_iff]
        exact fun ⟨_, _, room, _⟩ => full room

/-- `msgsnd` waits only on a live queue that has no room for the message. -/
theorem msgsnd_eq_waits {k : Kernel} {msqid : BitVec 32} {m : QueuedMessage} (h : k.msgsnd msqid m = .waits) :
    ∃ q, k.find? msqid = some q ∧ ¬q.fits m.mText.length := by
  unfold msgsnd at h
  split at h
  · cases h
  · next q found =>
    split at h
    · cases h
    · split at h
      · cases h
      · next full => exact ⟨q, found, full⟩

/-- `msgctl(msqid, IPC_RMID, _)`: the queue under `msqid` leaves the table with
its messages; `EINVAL` when there is none. -/
def rmid (k : Kernel) (msqid : BitVec 32) : Except Errno Kernel :=
  if msqid ∈ k.ids then .ok (k.remove msqid) else .error .EINVAL

end Kernel

/-- What `msgrcv` finds: a message, taken off its queue; a failure; or nothing
of the type asked for, so the caller waits. -/
inductive Received
  | message (m : QueuedMessage) (k : Kernel)
  | failed (e : Errno)
  | waits

/-- `msgrcv(msqid, msgp, msgsz, msgtyp, 0)` for `msgtyp > 0`: the oldest
message of type `msgtyp`, taken off the queue; `E2BIG`, leaving it queued, when
its text is longer than `msgsz`; `EINVAL` when there is no such queue. -/
def Kernel.msgrcv (k : Kernel) (msqid : BitVec 32) (msgsz : Nat) (msgtyp : BitVec 64) :
    Received :=
  match k.find? msqid with
  | none => .failed .EINVAL
  | some q =>
    match q.messages.find? (·.mType == msgtyp) with
    | none => .waits
    | some m =>
      if msgsz < m.mText.length then .failed .E2BIG
      else .message m (k.setMessages msqid (q.messages.eraseP (·.mType == msgtyp)))

/-- What a delivering `msgrcv` did: it took the oldest message of the type off
the queue, which exists, and the message fits in `msgsz`. -/
theorem Kernel.msgrcv_eq_message {k k' : Kernel} {msqid : BitVec 32} {msgsz : Nat}
    {msgtyp : BitVec 64} {m : QueuedMessage} (h : k.msgrcv msqid msgsz msgtyp = .message m k') :
    ∃ q, k.find? msqid = some q ∧ q.messages.find? (·.mType == msgtyp) = some m ∧
      m.mText.length ≤ msgsz ∧ k' = k.setMessages msqid (q.messages.eraseP (·.mType == msgtyp)) := by
  unfold Kernel.msgrcv at h
  split at h
  · cases h
  · next q found =>
    split at h
    · cases h
    · next m' first =>
      split at h
      · cases h
      · next fits =>
        cases h
        exact ⟨q, found, first, by omega, rfl⟩

/-- `msgrcv` on a queue whose oldest message of the type is `m`, behind
messages of other types: it delivers `m`, when it fits, and leaves the others
in place. -/
theorem Kernel.msgrcv_of_first {k : Kernel} {msqid : BitVec 32} {msgsz : Nat} {msgtyp : BitVec 64}
    {q : MsgQueue} {other rest : List QueuedMessage} {m : QueuedMessage}
    (found : k.find? msqid = some q) (layout : q.messages = other ++ m :: rest)
    (skipped : ∀ o ∈ other, o.mType ≠ msgtyp) (typed : m.mType = msgtyp)
    (fits : m.mText.length ≤ msgsz) :
    k.msgrcv msqid msgsz msgtyp = .message m (k.setMessages msqid (other ++ rest)) := by
  have notYet : ∀ o ∈ other, ¬(o.mType == msgtyp) = true := by simpa using skipped
  have here : (m.mType == msgtyp) = true := by simpa using typed
  have first : q.messages.find? (·.mType == msgtyp) = some m := by
    rw [layout, List.find?_append, List.find?_eq_none.mpr notYet, Option.none_or]
    exact List.find?_cons_of_pos _ here
  have erased : q.messages.eraseP (·.mType == msgtyp) = other ++ rest := by
    rw [layout, List.eraseP_append_right _ notYet]
    exact congrArg (other ++ ·) (List.eraseP_cons_of_pos here)
  simp only [Kernel.msgrcv, found, first, erased, if_neg (Nat.not_lt.mpr fits)]

/-- Where a delivered message was: its queue held `other ++ m :: rest`, with
nothing of the type asked for in `other`, and now holds `other ++ rest`. -/
theorem Kernel.msgrcv_layout {k k' : Kernel} {msqid : BitVec 32} {msgsz : Nat} {msgtyp : BitVec 64}
    {m : QueuedMessage} (h : k.msgrcv msqid msgsz msgtyp = .message m k') :
    ∃ q other rest, k.find? msqid = some q ∧ q.messages = other ++ m :: rest ∧
      (∀ o ∈ other, o.mType ≠ msgtyp) ∧ m.mType = msgtyp ∧ k' = k.setMessages msqid (other ++ rest) := by
  obtain ⟨q, found, first, -, rfl⟩ := Kernel.msgrcv_eq_message h
  obtain ⟨typed, other, rest, layout, skipped⟩ := List.find?_eq_some.mp first
  have skipped' : ∀ o ∈ other, ¬(o.mType == msgtyp) = true := by simpa using skipped
  refine ⟨q, other, rest, found, layout, fun o mem => by simpa using skipped' o mem, by simpa using typed, ?_⟩
  rw [layout, List.eraseP_append_right _ skipped']
  exact congrArg (fun l => k.setMessages msqid (other ++ l)) (List.eraseP_cons_of_pos typed)

/-- A delivery takes one message off its queue. -/
theorem Kernel.waiting_msgrcv {k k' : Kernel} {msqid : BitVec 32} {msgsz : Nat}
    {msgtyp : BitVec 64} {m : QueuedMessage} (h : k.msgrcv msqid msgsz msgtyp = .message m k') :
    k'.waiting msqid < k.waiting msqid := by
  obtain ⟨q, found, first, -, rfl⟩ := Kernel.msgrcv_eq_message h
  have present := List.mem_of_find?_eq_some first
  have typed := List.find?_some first
  simp only [Kernel.waiting, Kernel.find?_setMessages, found, Option.map_some', if_true,
    Option.getD_some, List.length_eraseP_of_mem present (p := (·.mType == msgtyp)) typed]
  have := List.length_pos_of_mem present
  omega

/-- One process's view of the system: its pid, the kernel's table, `errno`,
what it has written to standard error, one entry per `eprintln!`, and the
environment's verdicts on its next system calls (`some e`: that call fails
with `e` whatever the table says). -/
structure World where
  pid : UInt32
  kernel : Kernel
  errno : Errno
  stderr : List String
  faults : List (Option Errno)

namespace World

/-- `eprintln!`: one more write on standard error, the text followed by a
newline; the text may hold newlines of its own. -/
def eprintln (w : World) (line : String) : World := { w with stderr := w.stderr ++ [line] }

@[simp] theorem eprintln_stderr (w : World) (line : String) : (w.eprintln line).stderr = w.stderr ++ [line] :=
  rfl

/-- The environment's verdict on the next call, and the world with it used up. -/
def nextFault (w : World) : Option Errno × World :=
  match w.faults with
  | [] => (none, w)
  | f :: fs => (f, { w with faults := fs })

@[simp] theorem nextFault_nil (w : World) (h : w.faults = []) : w.nextFault = (none, w) := by
  simp [nextFault, h]

/-- Using up a verdict changes nothing but the verdicts left. -/
theorem nextFault_snd (w : World) : w.nextFault.2 = { w with faults := w.faults.tail } := by
  cases w with
  | mk pid kernel errno stderr faults => cases faults <;> rfl

end World

end Paperd.Sysv
