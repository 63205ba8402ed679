/-
# Detaching from the terminal

`daemon::run_daemon`: `fork`; the parent is told to quit at once; the child
makes itself the leader of a new session, which leaves it without a
controlling terminal, and closes its three standard streams, ignoring what
`close` answers. The system's answers to `fork` and `setsid` are inputs: the
model is the view of the one process that looks at them.
-/

import Paperd.Sysv

namespace Paperd.Daemon

open Paperd.Sysv

/-- `nix::unistd::ForkResult`: the parent sees the child's pid. -/
inductive ForkResult where
  | Parent (child : UInt32)
  | Child
  deriving DecidableEq

/-- `Status`: whether the caller goes on as the daemon or exits. -/
inductive Status where
  | CONTINUE
  | QUIT
  deriving DecidableEq

/-- What `run_daemon` changes of a process: whether it leads a session of its
own, its open file descriptors, and the lines it wrote on standard error. -/
structure Process where
  sessionLeader : Bool
  openFds : List Nat
  stderr : List String
  deriving DecidableEq

/-- What the system answers to `fork()` and `setsid()`. -/
structure Answers where
  fork : Except Errno ForkResult
  setsid : Except Errno UInt32

/-- `eprintln!`: one more line on standard error. -/
def Process.eprintln (p : Process) (line : String) : Process := { p with stderr := p.stderr ++ [line] }

/-- `close_fd(fd)`: `close(fd.as_raw_fd())` with its result dropped. Linux
releases the descriptor whatever `close` answers. -/
def closeFd (fd : Nat) (p : Process) : Process := { p with openFds := p.openFds.filter (· ≠ fd) }

/-- `run_daemon()`, with `stdin`, `stdout` and `stderr` on descriptors 0, 1
and 2. -/
def runDaemon (a : Answers) (p : Process) : Except (BitVec 32) Status × Process :=
  match a.fork with
  | .ok (.Parent _) => (.ok .QUIT, p)
  | .ok .Child =>
    match a.setsid with
    | .ok _ =>
      let p := { p with sessionLeader := true }
      (.ok .CONTINUE, closeFd 2 (closeFd 1 (closeFd 0 p)))
    | .error _ => (.error 1, p.eprintln "Failed to start a new session")
  | .error _ => (.error 1, p.eprintln "Fork failed")

/-- A process that has left the foreground: it leads a session of its own and
has none of its standard streams open. -/
def Detached (p : Process) : Prop := p.sessionLeader = true ∧ ∀ fd ∈ [0, 1, 2], fd ∉ p.openFds

/-- **Detaching.** `run_daemon` returns `Ok(CONTINUE)` exactly in the child of
a `fork` whose `setsid` succeeded, and leaves it detached; `Ok(QUIT)` exactly
in the parent, which it leaves as it was; any other call ends in `Err(1)`
with one line on standard error and the process still in the foreground. -/
theorem runDaemon_detaches (a : Answers) (p : Process) :
    ((runDaemon a p).1 = .ok .CONTINUE ↔ a.fork = .ok .Child ∧ ∃ sid, a.setsid = .ok sid) ∧
    ((runDaemon a p).1 = .ok .CONTINUE → Detached (runDaemon a p).2) ∧
    ((runDaemon a p).1 = .ok .QUIT ↔ ∃ child, a.fork = .ok (.Parent child)) ∧
    ((runDaemon a p).1 = .ok .QUIT → (runDaemon a p).2 = p) ∧
    ((runDaemon a p).1 = .error 1 ↔ (runDaemon a p).1 ≠ .ok .CONTINUE ∧ (runDaemon a p).1 ≠ .ok .QUIT) ∧
    ((runDaemon a p).1 = .error 1 → ∃ line, (runDaemon a p).2 = p.eprintln line) := by
  obtain ⟨fork, setsid⟩ := a
  rcases fork with e | (child | _)
  · simp [runDaemon]
  · simp [runDaemon]
  · rcases setsid with e | sid
    · simp [runDaemon]
    · simp [runDaemon, Detached, closeFd]

end Paperd.Daemon
