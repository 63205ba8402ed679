/-
# Opening the daemon's queue

`open_message_channel`: the pid file's path is made canonical, turned into a C
string, and hashed by `ftok` with project id `'P'` into the key of the
daemon's queue, which `msgget` opens or creates. The client and the daemon
find each other only through this key, so what matters is that it depends
on nothing but the file: any two opens of paths that name the same file reach
the same queue, and once it exists an open creates nothing.

Paths are modelled as Lean strings, on which `to_string_lossy` is the
identity; the file system is given by what `canonicalize` and `stat` return.
-/

import Paperd.Messaging.Send

namespace Paperd.Messaging

open Paperd.Sysv

/-- What the program asks of the file system: `Path::canonicalize` (the
absolute path with every link resolved, `none` when it fails) and the device
and inode numbers `stat` gives `ftok` (`none` when it fails). -/
structure FileSystem where
  canonicalize : String → Option String
  stat : String → Option (Nat × Nat)

/-- glibc's `ftok(pathname, proj_id)`: the low 16 bits of the inode number,
the low 8 bits of the device number above them, the low 8 bits of `proj_id`
on top; `-1` when `stat` fails. -/
def ftok (fs : FileSystem) (pathname : String) (projId : Nat) : BitVec 32 :=
  match fs.stat pathname with
  | none => -1
  | some (dev, ino) => BitVec.ofNat 32 ((ino &&& 0xffff) ||| ((dev &&& 0xff) <<< 16) ||| ((projId &&& 0xff) <<< 24))

/-- `open_message_channel(pid_file)`. `CString::new` fails on a path with a
NUL byte, a `'\0'` among its characters. -/
def openMessageChannel (fs : FileSystem) (pidFile : String) (w : World) :
    Except (BitVec 32) MessageChannel × World :=
  match fs.canonicalize pidFile with
  | none => (.error 1, w.eprintln s!"Failed to canonicalize {pidFile}")
  | some pidFile =>
    if pidFile.data.contains (Char.ofNat 0) then
      (.error 1, w.eprintln s!"Failed to initialize message channel for {pidFile}")
    else
      let (msqId, w) := Libc.msgget (ftok fs pidFile 0x50) (0o666 ||| Libc.IPC_CREAT) w
      if msqId = -1 then
        let shown := msqId.toInt
        let msg := w.errno.desc
        (.error 1, w.eprintln s!"Failed to open message channel: {shown}: {msg}")
      else (.ok ⟨msqId⟩, w)

/-- The key in arithmetic form: `proj_id`'s low byte, then the device's, then
the inode's low 16 bits, the three fields side by side. -/
theorem ftok_of_stat {fs : FileSystem} {pathname : String} {projId dev ino : Nat}
    (stat : fs.stat pathname = some (dev, ino)) :
    ftok fs pathname projId = BitVec.ofNat 32 (2^24 * (projId % 2^8) + (2^16 * (dev % 2^8) + ino % 2^16)) := by
  have low : ino % 2^16 < 2^16 := Nat.mod_lt _ (by decide)
  have mid : 2^16 * (dev % 2^8) + ino % 2^16 < 2^24 := by omega
  rw [ftok, stat]
  simp only [show (0xffff : Nat) = 2^16 - 1 from rfl, show (0xff : Nat) = 2^8 - 1 from rfl,
    Nat.and_pow_two_sub_one_eq_mod, Nat.shiftLeft_eq]
  rw [Nat.or_comm (ino % 2^16), Nat.mul_comm (dev % 2^8), ← Nat.mul_add_lt_is_or low, Nat.or_comm,
    Nat.mul_comm (projId % 2^8), ← Nat.mul_add_lt_is_or mid]

/-- With project id `'P'` the key's top byte is `0x50`, so it is never
`IPC_PRIVATE`, the key under which every `msgget` makes a new queue. -/
theorem ftok_ne_private (fs : FileSystem) (pathname : String) : ftok fs pathname 0x50 ≠ IPC_PRIVATE := by
  rcases stat : fs.stat pathname with _ | ⟨dev, ino⟩
  · simp only [ftok, stat]
    decide
  · rw [ftok_of_stat stat]
    intro zero
    have := congrArg BitVec.toNat zero
    simp [IPC_PRIVATE] at this
    omega

/-- Two files get one key exactly when their inode numbers agree in the low
16 bits and their device numbers in the low 8 bits. -/
theorem ftok_eq_iff {fs : FileSystem} {c c' : String} {dev dev' ino ino' : Nat}
    (stat : fs.stat c = some (dev, ino)) (stat' : fs.stat c' = some (dev', ino')) :
    ftok fs c' 0x50 = ftok fs c 0x50 ↔ ino' % 2^16 = ino % 2^16 ∧ dev' % 2^8 = dev % 2^8 := by
  rw [ftok_of_stat stat, ftok_of_stat stat']
  constructor
  · intro same
    have := congrArg BitVec.toNat same
    simp only [BitVec.toNat_ofNat] at this
    omega
  · rintro ⟨lowIno, lowDev⟩
    rw [lowIno, lowDev]

/-- What an `open_message_channel` that succeeded did: the path was made
canonical, with no NUL in it, and the queue it hands back is then the one
under the file's key. -/
theorem openMessageChannel_ok {fs : FileSystem} {p : String} {w w₁ : World} {ch : MessageChannel}
    (opened : openMessageChannel fs p w = (.ok ch, w₁)) :
    ∃ c, fs.canonicalize p = some c ∧ ¬c.data.contains (Char.ofNat 0) = true ∧
      w₁.kernel.keyed? (ftok fs c 0x50) = some ch.msqId := by
  unfold openMessageChannel at opened
  split at opened
  · cases opened
  · next c canon =>
    split at opened
    · cases opened
    · next noNul =>
      rcases got : Libc.msgget (ftok fs c 0x50) (0o666 ||| Libc.IPC_CREAT) w with ⟨msqid, w'⟩
      rw [got] at opened
      by_cases ok : msqid = -1
      · simp [ok] at opened
      · simp only [if_neg ok, Prod.mk.injEq, Except.ok.injEq] at opened
        obtain ⟨rfl, rfl⟩ := opened
        obtain ⟨k, created, rfl⟩ := Libc.msgget_ne_neg_one got ok
        exact ⟨c, canon, noNul, Kernel.msgget_keyed created (ftok_ne_private fs c)⟩

/-- An open of a path whose file's key already names a queue, with no verdict
against its call, hands back that queue and changes nothing. -/
theorem openMessageChannel_of_keyed {fs : FileSystem} {p c : String} {w : World} {msqid : BitVec 32}
    (canon : fs.canonicalize p = some c) (noNul : ¬c.data.contains (Char.ofNat 0) = true)
    (noFault : w.faults = []) (keyed : w.kernel.keyed? (ftok fs c 0x50) = some msqid) :
    openMessageChannel fs p w = (.ok ⟨msqid⟩, w) := by
  simp only [openMessageChannel, canon, if_neg noNul, Libc.msgget_of_keyed noFault (ftok_ne_private fs c) keyed,
    if_neg (Libc.ne_neg_one_of_live (Kernel.find?_of_keyed? keyed))]

/-- The key depends on the file only. Once `open_message_channel` has
opened the queue of a pid file, an open of any path that names the same file,
with no verdict against its calls, hands back the same queue and changes
nothing: the daemon and its clients meet on one queue. -/
theorem openMessageChannel_same_file (fs : FileSystem) {p p' : String} {w w₁ : World}
    {ch : MessageChannel} (opened : openMessageChannel fs p w = (.ok ch, w₁))
    (same : fs.canonicalize p' = fs.canonicalize p) (noFault : w₁.faults = []) :
    openMessageChannel fs p' w₁ = (.ok ch, w₁) := by
  obtain ⟨c, canon, noNul, keyed⟩ := openMessageChannel_ok opened
  exact openMessageChannel_of_keyed (same.trans canon) noNul noFault keyed

/-- Distinct files can share a queue. The key keeps only the low 16 bits
of the inode number and the low 8 bits of the device number, so two files get
one key exactly when these agree; then, once a pid file's queue is open, an
open of a path to the other file, with no verdict against its call, hands back
the same queue. -/
theorem openMessageChannel_key_collision (fs : FileSystem) {p p' c c' : String} {dev dev' ino ino' : Nat}
    (canon : fs.canonicalize p = some c) (canon' : fs.canonicalize p' = some c')
    (noNul' : ¬c'.data.contains (Char.ofNat 0) = true) (stat : fs.stat c = some (dev, ino))
    (stat' : fs.stat c' = some (dev', ino')) :
    (ftok fs c' 0x50 = ftok fs c 0x50 ↔ ino' % 2^16 = ino % 2^16 ∧ dev' % 2^8 = dev % 2^8) ∧
    ∀ {w w₁ : World} {ch : MessageChannel}, ino' % 2^16 = ino % 2^16 → dev' % 2^8 = dev % 2^8 →
      w₁.faults = [] → openMessageChannel fs p w = (.ok ch, w₁) → openMessageChannel fs p' w₁ = (.ok ch, w₁) := by
  refine ⟨ftok_eq_iff stat stat', fun lowIno lowDev noFault opened => ?_⟩
  obtain ⟨c₀, canon₀, -, keyed⟩ := openMessageChannel_ok opened
  cases canon.symm.trans canon₀
  rw [← (ftok_eq_iff stat stat').mpr ⟨lowIno, lowDev⟩] at keyed
  exact openMessageChannel_of_keyed canon' noNul' noFault keyed

/-! ### The reply queue and the daemon's queue -/

/-- Every key `ftok` makes with project id `'P'` lies above every pid Linux
hands out: its top byte is `0x50`, or it is `-1`. -/
theorem ftok_ne_pid (fs : FileSystem) (pathname : String) {pid : UInt32} (small : pid.toNat ≤ PID_MAX_LIMIT) :
    pid.toBitVec ≠ ftok fs pathname 0x50 := by
  intro same
  have value := congrArg BitVec.toNat same
  have pidValue : pid.toBitVec.toNat = pid.toNat := rfl
  unfold PID_MAX_LIMIT at small
  rcases stat : fs.stat pathname with _ | ⟨dev, ino⟩
  · simp only [ftok, stat, pidValue] at value
    simp at value
    omega
  · rw [ftok_of_stat stat, pidValue, BitVec.toNat_ofNat] at value
    omega

/-- **The reply queue is never the daemon's queue.** A client whose pid is one
Linux hands out, with the daemon's queue in the table under its pid file's
key (as `open_message_channel` leaves it), gets from `send_message` a reply
channel other than the daemon's queue: the reply queue is the one under the
pid, and every `ftok` key lies above every pid. So a client never reads its
own request frames as its reply. -/
theorem reply_queue_apart (fs : FileSystem) (c : String) {self : MessageChannel} {handler : MessageHandler}
    {message : Except String Utf8.RString} {w w' : World} {r : ResponseChannel}
    (small : w.pid.toNat ≤ PID_MAX_LIMIT) (daemon : w.kernel.keyed? (ftok fs c 0x50) = some self.msqId)
    (sent : sendMessage self handler message w = (.returns (.ok (some r)), w')) :
    r.responseChan ≠ self.msqId := by
  obtain ⟨w₁, created⟩ := sendMessage_reply sent
  obtain ⟨⟨mq, found, key⟩, keeps⟩ := createReceiveChannel_key created
  obtain ⟨dq, daemonFound, daemonKey⟩ := Kernel.find?_keyed? daemon
  intro same
  rw [same, keeps _ _ daemonFound] at found
  cases found
  exact ftok_ne_pid fs c small (key.symm.trans daemonKey)

/-- The daemon's pid file, which every path resolves to, on device 2049 with
inode 1234567. -/
def pidFileSystem : FileSystem := ⟨fun _ => some "/srv/paper/paper.pid", fun _ => some (2049, 1234567)⟩

/-- The daemon's queue, id 0, created under the key of `pidFileSystem`'s pid
file, beside a client with pid 1. -/
def keyedDaemonWorld : World :=
  ⟨1, Kernel.single (ftok pidFileSystem "/srv/paper/paper.pid" 0x50) [], .UnknownErrno, [], []⟩

/-- The client's first request that expects a reply gets a reply queue other
than queue 0. -/
theorem reply_queue_apart_first_request :
    ∃ r w', ((keyedDaemonWorld.pid.toNat ≤ PID_MAX_LIMIT ∧
      keyedDaemonWorld.kernel.keyed? (ftok pidFileSystem "/srv/paper/paper.pid" 0x50) = some 0) ∧
      sendMessage ⟨0⟩ ⟨0, true⟩ (.ok emptyObject) keyedDaemonWorld = (.returns (.ok (some r)), w')) ∧
      r.responseChan ≠ 0 := by
  have keyed : keyedDaemonWorld.kernel.keyed? (ftok pidFileSystem "/srv/paper/paper.pid" 0x50) = some 0 := by
    simp [keyedDaemonWorld, Kernel.keyed?, Kernel.single]
  obtain ⟨q, w₁, created, noFault₁, -⟩ := @createReceiveChannel_of_room keyedDaemonWorld rfl (by decide)
  have found := createReceiveChannel_keeps keyedDaemonWorld (a := 0) rfl
  rw [created] at found
  obtain ⟨w', done, -⟩ := @sendLoop_of_room ⟨0⟩ 0 q emptyObject.bytes w₁ _ noFault₁ found (by decide)
  have sent := @sendMessage_of_reply ⟨0⟩ ⟨0, true⟩ emptyObject _ _ _ _ rfl created done
  exact ⟨⟨q⟩, w', ⟨⟨by decide, keyed⟩, sent⟩,
    reply_queue_apart pidFileSystem "/srv/paper/paper.pid" (by decide) keyed sent⟩

end Paperd.Messaging
