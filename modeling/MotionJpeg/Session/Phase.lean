import MotionJpeg.Route

/-!
# Phases of a session

A session reads a request, sends the head of the answer and what belongs to it, and then ends,
streams, or waits for the next request.
-/

namespace MotionJpeg

/-- What a session is about. -/
inductive Phase where
  /-- A request is being read. -/
  | awaitingHeaders
  /-- The answer for a route of this kind is being sent. -/
  | draining (kind : RouteKind)
  /-- The head of a stream is sent, and frames follow as they come. -/
  | streaming
  | closed
  deriving DecidableEq, Repr

/-- The session waits for bytes of a request. -/
def Phase.wantsRead : Phase → Bool
  | awaitingHeaders => true
  | draining _ | streaming | closed => false

/-- Why a session ends. -/
inductive CloseReason where
  | peerClosed
  | transportFailed
  /-- The answer was sent and nothing follows it. -/
  | responseComplete
  /-- The frame of a still was gone before it was sent. -/
  | frameUnavailable
  | timedOut
  | shutdown
  deriving DecidableEq, Repr

/-- The words for a reason. -/
def CloseReason.message : CloseReason → String
  | peerClosed => "peer closed connection"
  | transportFailed => "socket error"
  | responseComplete => "response complete"
  | frameUnavailable => "frame unavailable"
  | timedOut => "timed out"
  | shutdown => "server shutdown"

/-- What is to become of a session after an event. -/
inductive Flow where
  /-- The session goes on. -/
  | keep
  /-- The session is to be removed. -/
  | close (reason : CloseReason)
  deriving DecidableEq, Repr

end MotionJpeg
