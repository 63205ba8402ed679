/-
# Reporting failures

The convention the client's operations keep towards the command line: a call
that fails returns `Err(1)` and makes exactly one `eprintln!`, naming the
operation and the queue or the error's text; a call that succeeds writes
nothing. One `eprintln!` is one write, ended by a newline; a text it prints,
such as a server's error or a path, may hold newlines of its own. It holds on
every path of `open_message_channel`, `send_message` with its paging loop,
`receive_message` with its reassembly loop, and `close`, whenever they return.
Each function gets one lemma; the two loops are covered by induction along
their recursion.
-/

import Paperd.Messaging.Open
import Paperd.Messaging.Receive

namespace Paperd.Messaging

open Paperd.Sysv Paperd.Utf8

/-- How a call that ended with `r`, going from `w` to `w'`, reported it:
nothing on standard error for `Ok`; for `Err`, the code `1` and exactly one
`eprintln!`. -/
def Reported {α : Type} (r : Except (BitVec 32) α) (w w' : World) : Prop :=
  match r with
  | .ok _ => w'.stderr = w.stderr
  | .error e => e = 1 ∧ ∃ line, w'.stderr = w.stderr ++ [line]

/-- `Err(1)` with one `eprintln!` after calls that wrote nothing. -/
theorem reported_eprintln {α : Type} {w w₁ : World} (line : String) (same : w₁.stderr = w.stderr) :
    Reported (.error 1 : Except (BitVec 32) α) w (w₁.eprintln line) :=
  ⟨rfl, line, by rw [World.eprintln_stderr, same]⟩

/-- Calls before that wrote nothing do not change what is reported. -/
theorem Reported.of_stderr {α : Type} {r : Except (BitVec 32) α} {w w₁ w' : World}
    (same : w₁.stderr = w.stderr) (reported : Reported r w₁ w') : Reported r w w' := by
  cases r <;> simpa only [Reported, same] using reported

theorem openMessageChannel_reported (fs : FileSystem) (p : String) (w : World) :
    Reported (openMessageChannel fs p w).1 w (openMessageChannel fs p w).2 := by
  unfold openMessageChannel
  split
  · exact reported_eprintln _ rfl
  · split
    · exact reported_eprintln _ rfl
    · split
      next msqid w₁ got =>
      have same : w₁.stderr = w.stderr := by rw [← Libc.msgget_stderr _ _ w, got]
      split
      · exact reported_eprintln _ same
      · exact same

theorem createReceiveChannel_reported (w : World) :
    Reported (createReceiveChannel w).1 w (createReceiveChannel w).2 := by
  unfold createReceiveChannel
  split
  next msqid w₁ got =>
  have same : w₁.stderr = w.stderr := by rw [← Libc.msgget_stderr _ _ w, got]
  split
  · exact reported_eprintln _ same
  · exact same

theorem sendLoop_reported (self : MessageChannel) (typeId : BitVec 16) (receiveChan : BitVec 32)
    (data : List UInt8) (w : World) {r : Except (BitVec 32) Unit} {w' : World}
    (ran : sendLoop self typeId receiveChan data w = (.returns r, w')) : Reported r w w' := by
  induction data, w using sendLoop.induct self typeId receiveChan with
  | case1 data w nonempty _ waits => rw [sendLoop_of_waits nonempty waits] at ran; cases ran
  | case2 data w nonempty _ w₁ failed =>
    rw [sendLoop_of_failed nonempty failed] at ran
    cases ran
    exact reported_eprintln _ (Libc.msgsnd_stderr failed)
  | case3 data w nonempty _ ret w₁ sent notFailed ih =>
    rw [sendLoop_of_sent nonempty sent notFailed] at ran
    exact (ih ran).of_stderr (sendPagedMessage_ok sent notFailed).2.2
  | case4 data w empty =>
    rw [sendLoop_of_empty empty] at ran
    cases ran
    rfl

theorem sendMessage_reported (self : MessageChannel) (handler : MessageHandler)
    (message : Except String RString) (w : World) {r : Except (BitVec 32) (Option ResponseChannel)} {w' : World}
    (sent : sendMessage self handler message w = (.returns r, w')) : Reported r w w' := by
  have opened : Reported (if handler.expectResponse then createReceiveChannel w else (.ok (-1), w)).1 w
      (if handler.expectResponse then createReceiveChannel w else (.ok (-1), w)).2 := by
    split
    · exact createReceiveChannel_reported w
    · rfl
  rcases hc : (if handler.expectResponse then createReceiveChannel w else (.ok (-1), w)) with ⟨e | q, w₁⟩ <;>
    rw [hc] at opened
  · have failed : sendMessage self handler message w = (.returns (.error e), w₁) := by simp only [sendMessage, hc]
    rw [failed] at sent
    cases sent
    exact opened
  · cases message with
    | error err =>
      simp only [sendMessage, hc] at sent
      cases sent
      exact reported_eprintln _ opened
    | ok t =>
      rcases hl : sendLoop self handler.typeId q t.bytes w₁ with ⟨r', w₂⟩
      rw [sendMessage_of_opened hc hl] at sent
      have loop : ∀ r'', r' = .returns r'' → Reported r'' w w₂ := fun r'' returned =>
        (sendLoop_reported self handler.typeId q t.bytes w₁ (hl.trans (by rw [returned]))).of_stderr opened
      rcases r' with (_ | _) | _ | _ <;> simp only [Prod.mk.injEq, Exit.returns.injEq, reduceCtorEq, false_and] at sent
      · obtain ⟨rfl, rfl⟩ := sent
        exact loop _ rfl
      · obtain ⟨rfl, rfl⟩ := sent
        exact loop (.ok ()) rfl

theorem receiveLoop_reported (self : ResponseChannel) (message : Message) (buffer : List UInt8) (w : World)
    {r : Except (BitVec 32) (List UInt8)} {w' : World}
    (ran : receiveLoop self message buffer w = (.returns r, w')) : Reported r w w' := by
  induction message, buffer, w using receiveLoop.induct self with
  | case1 message buffer w waits =>
    rw [receiveLoop_of_waits waits] at ran
    cases ran
  | case2 message buffer w message' w₁ failed =>
    obtain ⟨line, loop⟩ := @receiveLoop_of_failed self message message' buffer w w₁ failed
    rw [loop] at ran
    cases ran
    exact reported_eprintln line (Libc.msgrcv_frame failed).2
  | case3 message buffer w res message' w₁ delivered notFailed p overlong =>
    rw [receiveLoop_of_delivered delivered notFailed, overlong] at ran
    cases ran
  | case4 message buffer w res message' w₁ delivered notFailed bytes final =>
    rw [receiveLoop_of_delivered delivered notFailed, final] at ran
    cases ran
    exact (Libc.msgrcv_frame delivered).2
  | case5 message buffer w res message' w₁ delivered notFailed bytes collecting ih =>
    rw [receiveLoop_of_delivered delivered notFailed, collecting] at ran
    exact (ih ran).of_stderr (Libc.msgrcv_frame delivered).2

theorem decodeResponse_reported {R : Type} (parse : RString → Except String R)
    (parseError : RString → Except String ServerErrorMessage) (buffer : List UInt8) (w : World) :
    Reported (decodeResponse parse parseError buffer w).1 w (decodeResponse parse parseError buffer w).2 := by
  unfold decodeResponse
  split
  · exact reported_eprintln _ rfl
  · split
    · rfl
    · split <;> exact reported_eprintln _ rfl

theorem receiveMessage_reported {R : Type} (parse : RString → Except String R)
    (parseError : RString → Except String ServerErrorMessage) (self : ResponseChannel) (w : World)
    {r : Except (BitVec 32) R} {w' : World}
    (received : receiveMessage parse parseError self w = (.returns r, w')) : Reported r w w' := by
  unfold receiveMessage at received
  split at received
  · next buffer w₁ ran =>
    have loop : w₁.stderr = w.stderr := receiveLoop_reported self _ _ w ran
    cases received
    exact (decodeResponse_reported parse parseError buffer w₁).of_stderr loop
  · next e w₁ ran =>
    cases received
    exact receiveLoop_reported self _ _ w ran
  · cases received
  · cases received

theorem close_reported (self : ResponseChannel) (w : World) :
    Reported (close self w).1 w (close self w).2 := by
  unfold close
  split
  next res w₁ got =>
  have same : w₁.stderr = w.stderr := by rw [← Libc.msgctl_stderr _ _ w, got]
  split
  · exact reported_eprintln _ same
  · exact same

/-- **Failures are reported once.** Every call of the client's operations that
returns and fails returns `Err(1)` with exactly one `eprintln!` on standard
error, and every call that succeeds writes nothing there:
`open_message_channel`, `send_message`, `receive_message` and `close`. -/
theorem failures_reported_once :
    (∀ fs p w, Reported (openMessageChannel fs p w).1 w (openMessageChannel fs p w).2) ∧
    (∀ self handler message w (r : Except (BitVec 32) (Option ResponseChannel)) (w' : World),
      sendMessage self handler message w = (.returns r, w') → Reported r w w') ∧
    (∀ {R : Type} (parse : RString → Except String R) (parseError : RString → Except String ServerErrorMessage)
      (self : ResponseChannel) (w : World) (r : Except (BitVec 32) R) (w' : World),
      receiveMessage parse parseError self w = (.returns r, w') → Reported r w w') ∧
    (∀ self w, Reported (close self w).1 w (close self w).2) :=
  ⟨openMessageChannel_reported,
    fun self handler message w _ _ sent => sendMessage_reported self handler message w sent,
    fun parse parseError self w _ _ received => receiveMessage_reported parse parseError self w received,
    close_reported⟩

end Paperd.Messaging
