import MotionJpeg.Bytes.Basic
import MotionJpeg.Failure

/-!
# A source that is fed

Producers send frames into a queue of fixed length. A capture empties the queue and keeps the last
frame only.
-/

namespace MotionJpeg

/-- A source with the queue that feeds it. -/
structure Channel where
  /-- How many frames wait at most. -/
  capacity : Nat
  /-- The frames that wait, the oldest first. -/
  queue : List Bytes
  /-- How many producers there are. -/
  senders : Nat
  width : Nat
  height : Nat
  deriving DecidableEq, Repr

namespace Channel

/-- What becomes of a frame that is sent. -/
inductive SendOutcome where
  | accepted
  /-- As many frames wait as can. -/
  | full
  /-- There is no producer that could send. -/
  | noSender
  deriving DecidableEq, Repr

/-- A channel with one producer. At least one frame can wait. -/
def new (capacity width height : Nat) : Channel where
  capacity := max capacity 1
  queue := []
  senders := 1
  width
  height

variable (channel : Channel)

/-- A producer sends a frame. -/
def send (frame : Bytes) : SendOutcome × Channel :=
  if channel.senders = 0 then (.noSender, channel)
  else if channel.queue.length < channel.capacity then
    (.accepted, { channel with queue := channel.queue ++ [frame] })
  else (.full, channel)

/-- A producer makes another one. -/
def addSender : Channel :=
  if channel.senders = 0 then channel else { channel with senders := channel.senders + 1 }

/-- A producer goes away. -/
def dropSender : Channel := { channel with senders := channel.senders - 1 }

/-- What a capture tells when there is no producer any more. -/
def producerGone : CaptureFailure :=
  .io { reason := "frame producer went away", kind := .brokenPipe }

/-- The last frame that was sent since the capture before, and the channel with an empty queue.
Without one, nothing was ready if there is a producer, and nothing will ever be if there is none. -/
def capture : Except CaptureFailure Bytes × Channel :=
  let next := { channel with queue := [] }
  match channel.queue.getLast? with
  | some frame => (.ok frame, next)
  | none =>
    if channel.senders = 0 then (.error producerGone, next)
    else (.error .noFrame, next)

end Channel

end MotionJpeg
