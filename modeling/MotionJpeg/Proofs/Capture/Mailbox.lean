import MotionJpeg.Capture.Channel

/-!
# Captures through a queue

The frames of producers come through a queue whose code is not part of the program. A capture takes
frames out of it until it has no more, and keeps the last one.

* `Queue` is what is known of a queue at a moment, and `Mailbox` what is known of its operations: it
  is first in, first out, and it says that the producers are gone only after the last frame.
* `Mailbox.capture` takes the frames out one by one.
* `Mailbox.capture_eq`: a capture ends, with the newest frame, and leaves the queue empty.
* `Channel.mailbox`: a channel is such a queue.
-/

namespace MotionJpeg

/-- A queue at a moment. -/
structure Queue where
  /-- How many frames wait at most. -/
  capacity : Nat
  /-- The frames that wait, the oldest first. -/
  waiting : List Bytes
  /-- How many producers there are. -/
  senders : Nat
  deriving DecidableEq, Repr

/-- What comes out of a queue. -/
inductive Receipt where
  | frame (frame : Bytes)
  /-- No frame waits, and there may be another one. -/
  | empty
  /-- No frame waits, and there is no producer. -/
  | disconnected
  deriving DecidableEq, Repr

/-- The operations of a bounded queue with many producers and one consumer. A producer can only do
something while there is one, so nothing is said about the others. -/
structure Mailbox where
  State : Type
  /-- No queue has a larger capacity. -/
  maxCapacity : Nat
  /-- A queue of this capacity, and its first producer, if there can be one. -/
  new : Nat → Option State
  /-- A producer hands over a frame, unless the queue is full. -/
  trySend : State → Bytes → Bool × State
  addSender : State → State
  dropSender : State → State
  tryReceive : State → Receipt × State
  /-- What is in the queue, which says what each of the operations does. -/
  view : State → Queue
  exists_new : ∀ capacity, 0 < capacity → capacity ≤ maxCapacity →
    ∃ s, new capacity = some s ∧ view s = { capacity, waiting := [], senders := 1 }
  new_eq_none : ∀ capacity, maxCapacity < capacity → new capacity = none
  trySend_of_lt : ∀ s frame, (view s).senders ≠ 0 → (view s).waiting.length < (view s).capacity →
    (trySend s frame).1 = true ∧
      view (trySend s frame).2 = { view s with waiting := (view s).waiting ++ [frame] }
  trySend_of_le : ∀ s frame, (view s).senders ≠ 0 → (view s).capacity ≤ (view s).waiting.length →
    (trySend s frame).1 = false ∧ view (trySend s frame).2 = view s
  view_addSender : ∀ s, (view s).senders ≠ 0 →
    view (addSender s) = { view s with senders := (view s).senders + 1 }
  view_dropSender : ∀ s, (view s).senders ≠ 0 →
    view (dropSender s) = { view s with senders := (view s).senders - 1 }
  tryReceive_of_cons : ∀ s frame rest, (view s).waiting = frame :: rest →
    (tryReceive s).1 = .frame frame ∧ view (tryReceive s).2 = { view s with waiting := rest }
  tryReceive_of_nil : ∀ s, (view s).waiting = [] →
    (tryReceive s).1 = (if (view s).senders = 0 then .disconnected else .empty) ∧
      view (tryReceive s).2 = view s

namespace Mailbox

variable (mailbox : Mailbox)

/-- With every frame that comes out, fewer frames wait. -/
theorem length_waiting_lt {s next : mailbox.State} {frame : Bytes}
    (h : mailbox.tryReceive s = (.frame frame, next)) :
    (mailbox.view next).waiting.length < (mailbox.view s).waiting.length := by
  cases hwaiting : (mailbox.view s).waiting with
  | nil =>
    have hreceive := (mailbox.tryReceive_of_nil s hwaiting).1
    rw [h] at hreceive
    split at hreceive <;> cases hreceive
  | cons first rest =>
    have hview := (mailbox.tryReceive_of_cons s first rest hwaiting).2
    rw [h] at hview
    rw [hview]
    exact Nat.lt_succ_self rest.length

/-- Takes frames out until there are no more. Without any, nothing was ready if there is a producer,
and nothing will ever be if there is none. -/
def drain (s : mailbox.State) (latest : Option Bytes) :
    Except CaptureFailure Bytes × mailbox.State :=
  match h : mailbox.tryReceive s with
  | (.frame frame, next) =>
    have := mailbox.length_waiting_lt h
    drain next (some frame)
  | (.empty, next) => (latest.elim (.error .noFrame) .ok, next)
  | (.disconnected, next) => (latest.elim (.error Channel.producerGone) .ok, next)
termination_by (mailbox.view s).waiting.length

/-- The newest frame in the queue. -/
def capture (s : mailbox.State) : Except CaptureFailure Bytes × mailbox.State :=
  mailbox.drain s none

/-- One turn of the loop. -/
theorem drain_of_cons {s : mailbox.State} {frame : Bytes} {rest : List Bytes}
    (h : (mailbox.view s).waiting = frame :: rest) (latest : Option Bytes) :
    mailbox.drain s latest = mailbox.drain (mailbox.tryReceive s).2 (some frame) := by
  have hreceive := (mailbox.tryReceive_of_cons s frame rest h).1
  rw [drain]
  split <;> simp_all

/-- The end of the loop. -/
theorem drain_of_nil {s : mailbox.State} (h : (mailbox.view s).waiting = [])
    (latest : Option Bytes) :
    mailbox.drain s latest =
      (latest.elim (.error (if (mailbox.view s).senders = 0 then Channel.producerGone
        else .noFrame)) .ok, (mailbox.tryReceive s).2) := by
  have hreceive := (mailbox.tryReceive_of_nil s h).1
  rw [drain]
  split <;> split at hreceive <;> simp_all

/-- The frames that wait come out in turn, so that the last one is kept. -/
theorem drain_eq (s : mailbox.State) (latest : Option Bytes) :
    (mailbox.drain s latest).1 = ((mailbox.view s).waiting.getLast?.or latest).elim
        (.error (if (mailbox.view s).senders = 0 then Channel.producerGone else .noFrame)) .ok ∧
      mailbox.view (mailbox.drain s latest).2 = { mailbox.view s with waiting := [] } := by
  -- Along the frames that wait; the one before them counts only if there are none.
  induction hwaiting : (mailbox.view s).waiting generalizing s latest with
  | nil =>
    rw [mailbox.drain_of_nil hwaiting, (mailbox.tryReceive_of_nil s hwaiting).2, ← hwaiting]
    exact ⟨by rw [hwaiting]; rfl, rfl⟩
  | cons frame rest ih =>
    have hview := (mailbox.tryReceive_of_cons s frame rest hwaiting).2
    have hrest := ih (mailbox.tryReceive s).2 (some frame) (by rw [hview])
    rw [hview] at hrest
    rw [mailbox.drain_of_cons hwaiting]
    refine ⟨?_, hrest.2⟩
    rw [hrest.1, List.getLast?_cons, Option.some_or]
    cases rest.getLast? <;> rfl

/-- A capture gives the newest frame, and none waits after it. -/
theorem capture_eq (s : mailbox.State) :
    (mailbox.capture s).1 = (mailbox.view s).waiting.getLast?.elim
        (.error (if (mailbox.view s).senders = 0 then Channel.producerGone else .noFrame)) .ok ∧
      mailbox.view (mailbox.capture s).2 = { mailbox.view s with waiting := [] } := by
  have h := mailbox.drain_eq s none
  rwa [Option.or_none] at h

end Mailbox

namespace Channel

section Operations

variable {channel : Channel}

theorem send_of_senders_eq_zero (h : channel.senders = 0) (frame : Bytes) :
    channel.send frame = (.noSender, channel) := if_pos h

theorem send_of_lt (h : channel.senders ≠ 0) (hlength : channel.queue.length < channel.capacity)
    (frame : Bytes) :
    channel.send frame = (.accepted, { channel with queue := channel.queue ++ [frame] }) := by
  rw [send, if_neg h, if_pos hlength]

theorem send_of_le (h : channel.senders ≠ 0) (hlength : channel.capacity ≤ channel.queue.length)
    (frame : Bytes) : channel.send frame = (.full, channel) := by
  rw [send, if_neg h, if_neg (Nat.not_lt.mpr hlength)]

theorem addSender_of_senders_ne_zero (h : channel.senders ≠ 0) :
    channel.addSender = { channel with senders := channel.senders + 1 } := if_neg h

theorem capture_eq (channel : Channel) : channel.capture =
    (channel.queue.getLast?.elim
      (.error (if channel.senders = 0 then producerGone else .noFrame)) .ok,
      { channel with queue := [] }) := by
  rw [capture]
  cases channel.queue.getLast? with
  | some frame => rfl
  | none => by_cases hgone : channel.senders = 0 <;> simp [hgone]

end Operations

/-- The queue of a channel. -/
def toQueue (channel : Channel) : Queue where
  capacity := channel.capacity
  waiting := channel.queue
  senders := channel.senders

/-- Takes the oldest frame out of the queue of a channel. -/
def tryReceive (channel : Channel) : Receipt × Channel :=
  match channel.queue with
  | frame :: rest => (.frame frame, { channel with queue := rest })
  | [] => (if channel.senders = 0 then .disconnected else .empty, channel)

/-- As many frames as can be counted when three bits of a word are used for something else. -/
def maxCapacity : Nat := UInt64.size / 8 - 1

/-- A channel, for pictures of this size, is a mailbox. -/
def mailbox (width height : Nat) : Mailbox where
  State := Channel
  maxCapacity := maxCapacity
  new capacity :=
    if capacity ≤ maxCapacity then some { capacity, queue := [], senders := 1, width, height }
    else none
  trySend channel frame := ((channel.send frame).1 = .accepted, (channel.send frame).2)
  addSender := addSender
  dropSender := dropSender
  tryReceive := tryReceive
  view := toQueue
  exists_new _ _ hle := ⟨_, if_pos hle, rfl⟩
  new_eq_none _ hlt := if_neg (Nat.not_le.mpr hlt)
  trySend_of_lt channel frame h hlength := by rw [send_of_lt h hlength]; exact ⟨rfl, rfl⟩
  trySend_of_le channel frame h hlength := by rw [send_of_le h hlength]; exact ⟨rfl, rfl⟩
  view_addSender channel h := by rw [addSender_of_senders_ne_zero h]; rfl
  view_dropSender _ _ := rfl
  tryReceive_of_cons channel frame rest h := by
    rw [tryReceive, show channel.queue = frame :: rest from h]
    exact ⟨rfl, rfl⟩
  tryReceive_of_nil channel h := by
    rw [tryReceive, show channel.queue = [] from h]
    exact ⟨rfl, rfl⟩

end Channel

end MotionJpeg
