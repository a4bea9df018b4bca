import MotionJpeg.Session.Basic

/-!
# Sending answers

One event of a writable connection is one attempt to write the head of the answer and, once that
is out, one attempt to write what follows it. What the connection does not take is offered again
at the next event.
-/

namespace MotionJpeg.Session

variable (session : Session)

/-- Offers bytes to the client and tells how many it took. A connection that takes nothing now has
taken none; `none` means that it has failed. -/
def offer (now : Nat) (bytes : Slice) : Option Nat × Session :=
  let (result, transport) := session.transport.write bytes
  let session := { session with transport }
  match result with
  | .error error => (if error.isTransient then some 0 else none, session)
  | .ok count =>
    if count = 0 then (some 0, session)
    else
      (some count,
        { session with
          lastActivity := now
          stats.bytesSent := session.stats.bytesSent + count })

/-- Sends what the store has for the cursor of a stream. -/
def sendFrames (now : Nat) (sources : Registry) : Flow × Session :=
  match session.cursor with
  | none => session.finish
  | some cursor =>
    match sources.get? cursor.source with
    | none => session.finish
    | some store =>
      let cursor := cursor.caughtUp store
      match cursor.unsent? store with
      | none => (.keep, { session with cursor := some cursor })
      | some bytes =>
        -- At the end of the newest frame there is nothing to offer, and still the cursor may go on.
        let (result, session) :=
          if bytes.isEmpty then (some 0, session) else session.offer now bytes
        match result with
        | none => session.fail
        | some count =>
          let (isComplete, cursor) := cursor.advance store count
          let framesSent := session.stats.framesSent + if isComplete then 1 else 0
          (.keep, { session with cursor := some cursor, stats.framesSent := framesSent })

/-- Sends the frame of a still, as long as its store has it. -/
def sendStill (now : Nat) (sources : Registry) : Flow × Session :=
  let found := session.cursor.bind fun cursor =>
    (sources.get? cursor.source).bind fun store =>
      (cursor.unsentPayload? store).map fun bytes => (cursor, bytes)
  match found with
  -- A still does not go on with another frame, also if it has sent some of this one.
  | none => (.close .frameUnavailable, { session with phase := .closed })
  | some (cursor, bytes) =>
    if bytes.isEmpty then session.finish
    else
      let (result, session) := session.offer now bytes
      match result with
      | none => session.fail
      | some count =>
        let cursor := { cursor with offset := cursor.offset + count }
        let session := { session with cursor := some cursor }
        if count < bytes.length then (.keep, session)
        else { session with stats.framesSent := session.stats.framesSent + 1 }.finish

/-- Sends the next chunk of a static file. At its end the session waits for another request. -/
def sendFile (now : Nat) (files : FileSystem) : Flow × Session :=
  match session.file with
  | none => session.finish
  | some file =>
    match files.readSome session.chunkSize file with
    | .error _ => session.fail
    | .ok bytes =>
      -- No bytes are the end of the file.
      if bytes.isEmpty then
        (.keep,
          { session.reset with stats.requestsServed := session.stats.requestsServed + 1 })
      else
        let (result, session) := session.offer now bytes
        match result with
        | none => session.fail
        | some count => (.keep, { session with file := some (file.advance count) })

/-- Sends what follows the head of an answer. -/
def sendBody (now : Nat) (files : FileSystem) (sources : Registry) (kind : RouteKind) :
    Flow × Session :=
  match kind with
  | .badRequest | .authRequired | .notFound | .streamInfo => session.finish
  | .still => session.sendStill now sources
  | .staticFile => session.sendFile now files
  | .stream => { session with phase := .streaming }.sendFrames now sources

/-- Sends the rest of the head of an answer, and what follows it once nothing is left of it. -/
def sendAnswer (now : Nat) (files : FileSystem) (sources : Registry) (kind : RouteKind) :
    Flow × Session :=
  if session.responseSent < session.response.length then
    let (result, session) := session.offer now (session.response.drop session.responseSent)
    match result with
    | none => session.fail
    | some count =>
      let session := { session with responseSent := session.responseSent + count }
      -- The event that sends the last of the head goes on with what follows it.
      if session.responseSent < session.response.length then (.keep, session)
      else session.sendBody now files sources kind
  else session.sendBody now files sources kind

/-- Sends what the phase of the session calls for. -/
def sendPhase (now : Nat) (files : FileSystem) (sources : Registry) : Flow × Session :=
  match session.phase with
  | .awaitingHeaders => (.keep, session)
  | .closed => (.close .responseComplete, session)
  | .streaming => session.sendFrames now sources
  | .draining kind => session.sendAnswer now files sources kind

/-- Flushes the connection and sends as much of the answer as it takes. -/
def send (now : Nat) (files : FileSystem) (sources : Registry) : Flow × Session :=
  let (result, transport) := session.transport.flush
  let session := { session with transport }
  match result with
  | .error error => if error.isTransient then session.sendPhase now files sources else session.fail
  | .ok () => session.sendPhase now files sources

/-- Sends until the session ends or has nothing to send, at most `limit` times, and tells how
often it sent. -/
def drain (now : Nat) (files : FileSystem) (sources : Registry) (limit : Nat) :
    (Flow × Nat) × Session :=
  go 0 limit session
where
  /-- Goes on after it has sent `calls` times. -/
  go (calls : Nat) : Nat → Session → (Flow × Nat) × Session
    | 0, session => ((.keep, calls), session)
    | limit + 1, session =>
      match session.send now files sources with
      | (.close reason, session) => ((.close reason, calls + 1), session)
      | (.keep, session) =>
        if session.wantsWrite sources then go (calls + 1) limit session
        else ((.keep, calls + 1), session)

end MotionJpeg.Session
