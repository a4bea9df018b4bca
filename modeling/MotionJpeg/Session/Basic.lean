import MotionJpeg.Files.Access
import MotionJpeg.Frame.Cursor
import MotionJpeg.Frame.Registry
import MotionJpeg.Http.Reply
import MotionJpeg.Network.Address
import MotionJpeg.Session.Phase
import MotionJpeg.Statistics
import MotionJpeg.Transport

/-!
# Sessions

A session is one client with all that is needed to go on with its answer after an attempt that
moved only some of the bytes: the request gathered so far, the head of the answer and how much of
it was sent, the open file of a static answer and the cursor of a stream or a still.

* `Session.respond` sets up the answer for a route.
* `Session.reset` goes back to waiting for a request.
-/

namespace MotionJpeg

/-- The shortest limit for the head of a request: a blank line has to fit. -/
def Session.minHeaderLimit : Nat := 4

/-- The state of one client. -/
structure Session where
  id : Nat
  peer : SocketAddress
  transport : Transport
  phase : Phase
  /-- The bytes of a request that is not complete. -/
  request : Bytes
  /-- The longest head of a request that is accepted. -/
  headerLimit : Nat
  /-- The head of the answer, and its body if that is settled. -/
  response : Slice
  responseSent : Nat
  /-- The place of a stream or a still in its store. -/
  cursor : Option Cursor
  file : Option OpenFile
  /-- The most bytes that are read from the client or from a file at once. -/
  chunkSize : Nat
  /-- When bytes were last moved. -/
  lastActivity : Nat
  stats : SessionStats
  /-- The limit leaves room for a blank line. -/
  minHeaderLimit_le : Session.minHeaderLimit ≤ headerLimit
  /-- Something is asked for whenever bytes are read. -/
  chunkSize_pos : 0 < chunkSize
  deriving DecidableEq, Repr

namespace Session

/-- A client that has just connected. -/
def new (id : Nat) (peer : SocketAddress) (transport : Transport)
    (headerLimit chunkSize now : Nat) : Session where
  id
  peer
  transport
  phase := .awaitingHeaders
  request := []
  headerLimit := max headerLimit minHeaderLimit
  response := .empty
  responseSent := 0
  cursor := none
  file := none
  chunkSize := max chunkSize 1
  lastActivity := now
  stats := {}
  minHeaderLimit_le := Nat.le_max_right _ _
  chunkSize_pos := Nat.le_max_right _ _

variable (session : Session)

/-- Nothing happened for longer than `timeout`. -/
def isIdle (now timeout : Nat) : Bool := timeout < now - session.lastActivity

/-- The session waits for bytes of a request. -/
def wantsRead : Bool := session.phase.wantsRead

/-- An attempt to send would change something. -/
def wantsWrite (sources : Registry) : Bool :=
  match session.phase with
  | .draining _ => true
  | .streaming =>
    match session.cursor with
    | some cursor => (sources.get? cursor.source).any cursor.hasPending
    | none => false
  | .awaitingHeaders | .closed => false

/-- The session with an answer whose head is `response`. -/
def answering (kind : RouteKind) (response : Bytes) : Session :=
  { session with
    phase := .draining kind
    response := .ofBytes response
    responseSent := 0
    cursor := none
    file := none }

/-- The session with the answer for a route. A source or a file that is not there after all makes
the answer `notFound`. -/
def respond (files : FileSystem) (sources : Registry) : Route → Session
  | .badRequest => session.answering .badRequest Http.Reply.badRequest
  | .authRequired => session.answering .authRequired Http.Reply.authRequired
  | .notFound => session.answering .notFound Http.Reply.notFound
  | .streamInfo =>
    session.answering .streamInfo
      (Http.Reply.streamInfo sources.size sources.width sources.height)
  | .stream source =>
    match sources.get? source with
    | none => session.answering .notFound Http.Reply.notFound
    | some store =>
      { session.answering .stream Http.Reply.streamHeader with
        cursor := some (.bind source store) }
  | .still source =>
    match sources.get? source with
    | none => session.answering .notFound Http.Reply.notFound
    | some store =>
      { session.answering .still Http.Reply.stillHeader with
        cursor := some (.bind source store) }
  | .staticFile path length mediaType =>
    match files.openFile path with
    | .error _ => session.answering .notFound Http.Reply.notFound
    | .ok file =>
      { session.answering .staticFile (Http.Reply.fileHeader length mediaType) with
        file := some file }

/-- The session waiting for the next request on its connection. -/
def reset : Session :=
  { session with
    phase := .awaitingHeaders
    request := []
    response := .empty
    responseSent := 0
    cursor := none
    file := none }

/-- The session is over, with its answer complete. -/
def finish : Flow × Session :=
  (.close .responseComplete,
    { session with
      phase := .closed
      stats.requestsServed := session.stats.requestsServed + 1 })

/-- The session is over because its connection or its file failed. -/
def fail : Flow × Session := (.close .transportFailed, { session with phase := .closed })

end Session

end MotionJpeg
