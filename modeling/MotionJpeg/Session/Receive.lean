import MotionJpeg.Router
import MotionJpeg.Session.Basic

/-!
# Receiving requests

One event of a readable connection is one attempt to read. A request is routed as soon as its
blank line has arrived, and refused when its head grows beyond the limit.
-/

namespace MotionJpeg.Session

variable (session : Session)

/-- How many bytes of a request are asked for at once: what the limit leaves room for, but no more
than a chunk. -/
def readSize : Nat := min (session.headerLimit - session.request.length) session.chunkSize

/-- The session with these bytes added to its request, and with an answer to the request if that
is complete or too long. -/
def gather (router : Router) (files : FileSystem) (sources : Registry) (bytes : Bytes) : Session :=
  let request := session.request ++ bytes
  match Http.headEnd? request with
  | some e =>
    -- What was read behind the blank line is dropped together with the head.
    let route := router.route files (.parse (request.take e)) sources.size
    { session with request := [] }.respond files sources route
  | none =>
    if request.length ≥ session.headerLimit then
      { session with request := [] }.respond files sources .badRequest
    else { session with request }

/-- Reads once, if the session waits for a request. -/
def receive (now : Nat) (router : Router) (files : FileSystem) (sources : Registry) :
    Flow × Session :=
  if !session.wantsRead then (.keep, session)
  else
    let (result, transport) := session.transport.read session.readSize
    let session := { session with transport }
    match result with
    | .error error => if error.isTransient then (.keep, session) else session.fail
    | .ok bytes =>
      -- That the peer has hung up is told to the server alone. The session stays as it is.
      if bytes.isEmpty then (.close .peerClosed, session)
      else
        let session :=
          { session with
            lastActivity := now
            stats.bytesReceived := session.stats.bytesReceived + bytes.length }
        (.keep, session.gather router files sources bytes)

end MotionJpeg.Session
