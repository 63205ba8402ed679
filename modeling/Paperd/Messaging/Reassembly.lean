/-
# Reassembly as a state machine

What the reply loop of `receive_message` is meant to do, apart from queues,
buffers and system calls: a machine fed one frame at a time. While it
collects, each frame adds its payload (`message[..len]`, `len` the low seven
bits of the length byte) to the bytes gathered, and a frame with bit 7 set
ends the reply; a `len` past the 100-byte array stops the machine. The loop
refines this machine (`Paperd.Messaging.Receive`), so what a reply queue
yields is settled here, by induction over frames alone.
-/

import Paperd.Messaging.Layout

namespace Paperd.Messaging

/-- Where the reassembly of one reply stands. -/
inductive Reassembly where
  | collecting (bytes : List UInt8)
  | done (bytes : List UInt8)
  | overlong (len : Nat)
  deriving DecidableEq

namespace Reassembly

/-- The payload length a frame declares: the low seven bits of its length
byte. -/
def declared (d : Data) : Nat := (d.messageLength &&& 0x7F).toNat

/-- Whether a frame ends its reply: bit 7 of its length byte. -/
def final (d : Data) : Bool := d.messageLength &&& 0x80 == 0x80

/-- One frame fed to the machine. Once it has stopped, frames change nothing. -/
def step : Reassembly → Data → Reassembly
  | collecting bytes, d =>
    if declared d ≤ MESSAGE_LENGTH then
      if final d then done (bytes ++ d.payload) else collecting (bytes ++ d.payload)
    else overlong (declared d)
  | s, _ => s

/-- Whether the machine has stopped taking frames. -/
def stopped : Reassembly → Bool
  | collecting _ => false
  | _ => true

/-- Frames fed in order for as long as the machine collects: the state it
reaches and the frames it did not take. -/
def run : Reassembly → List Data → Reassembly × List Data
  | collecting bytes, d :: ds => run (step (collecting bytes) d) ds
  | s, ds => (s, ds)

@[simp] theorem run_nil (s : Reassembly) : run s [] = (s, []) := by
  cases s <;> rfl

@[simp] theorem run_collecting_cons (bytes : List UInt8) (d : Data) (ds : List Data) :
    run (collecting bytes) (d :: ds) = run (step (collecting bytes) d) ds := rfl

@[simp] theorem run_done (bytes : List UInt8) (ds : List Data) : run (done bytes) ds = (done bytes, ds) := by
  cases ds <;> rfl

@[simp] theorem run_overlong (len : Nat) (ds : List Data) : run (overlong len) ds = (overlong len, ds) := by
  cases ds <;> rfl

/-- A machine still collecting after a run has taken every frame. -/
theorem run_snd_of_collecting :
    ∀ (s : Reassembly) (ds : List Data), (run s ds).1.stopped = false → (run s ds).2 = []
  | collecting _, [], _ => rfl
  | collecting bytes, d :: ds, collects => by
    rw [run_collecting_cons] at collects ⊢
    exact run_snd_of_collecting _ ds collects
  | done _, ds, stops => by simp [stopped] at stops
  | overlong _, ds, stops => by simp [stopped] at stops

/-- Frames whose lengths fit, only the last flagged final, are read to their
end: the machine is done with their payloads in order, and the frames after
them are left. -/
theorem run_frames (bytes : List UInt8) (rest : List Data) :
    ∀ frames : List Data, frames ≠ [] → (∀ d ∈ frames, declared d ≤ MESSAGE_LENGTH) →
      (∀ i (h : i < frames.length), final frames[i] = true ↔ i + 1 = frames.length) →
      run (collecting bytes) (frames ++ rest) = (done (bytes ++ (frames.map Data.payload).flatten), rest)
  | [], nonempty, _, _ => absurd rfl nonempty
  | d :: ds, _, fit, flagged => by
    have firstFlag := flagged 0 (Nat.zero_lt_succ _)
    simp only [List.getElem_cons_zero, List.length_cons, Nat.zero_add, Nat.add_right_cancel_iff] at firstFlag
    rw [List.cons_append, run_collecting_cons, step, if_pos (fit d (List.mem_cons_self _ _))]
    cases ds with
    | nil => simp [firstFlag.mpr rfl]
    | cons e ds =>
      have notFinal : final d = false := by simpa using firstFlag
      rw [if_neg (by simp [notFinal]), run_frames (bytes ++ d.payload) rest (e :: ds) (List.cons_ne_nil _ _)
        (fun d' mem => fit d' (List.mem_cons_of_mem _ mem))
        (fun i h => by simpa using flagged (i + 1) (by simpa using h))]
      simp

/-- A run that ends collecting, having taken every frame, goes on from there
on the frames that follow. -/
theorem run_append {bytes : List UInt8} :
    ∀ {s : Reassembly} {ds : List Data}, run s ds = (collecting bytes, []) →
      ∀ es, run s (ds ++ es) = run (collecting bytes) es
  | s, [], ran, es => by
    rw [run_nil] at ran
    cases ran
    rfl
  | collecting b, d :: ds, ran, es => by
    rw [run_collecting_cons] at ran
    rw [List.cons_append, run_collecting_cons, run_append ran]
  | done b, d :: ds, ran, _ => by simp at ran
  | overlong len, d :: ds, ran, _ => by simp at ran

/-- Frames that fit, none of them final, leave the machine collecting, their
payloads after the bytes it had. -/
theorem run_unfinished (bytes : List UInt8) :
    ∀ frames : List Data, (∀ d ∈ frames, declared d ≤ MESSAGE_LENGTH ∧ final d = false) →
      run (collecting bytes) frames = (collecting (bytes ++ (frames.map Data.payload).flatten), [])
  | [], _ => by simp
  | d :: ds, fit => by
    obtain ⟨small, notFinal⟩ := fit d (List.mem_cons_self _ _)
    rw [run_collecting_cons, step, if_pos small, notFinal, if_neg Bool.false_ne_true,
      run_unfinished _ ds fun d' mem => fit d' (List.mem_cons_of_mem _ mem)]
    simp

end Reassembly

end Paperd.Messaging
