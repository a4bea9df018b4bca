import MotionJpeg.Server.Basic
import MotionJpeg.Session.Receive
import MotionJpeg.Session.Send

/-!
# Ticks

In a tick a server admits the clients that ask for it, lets every session that is ready read or
write once, and drops the sessions that were idle for too long. No session is told anything of
another one.

* `Server.tick` is one tick, for any choice of ready sessions and in any order.
* `Server.serve` ticks until nothing is ready any more.
-/

namespace MotionJpeg

/-- The end of a session. -/
structure Ending where
  id : Nat
  reason : CloseReason
  /-- The session as it was when it was removed. -/
  session : Session
  deriving DecidableEq, Repr

/-- What is ready at the start of a tick. -/
structure Readiness where
  /-- The clients that ask to be admitted. -/
  accepted : List Connection := []
  /-- The numbers of the clients that can be read from. -/
  readable : List Nat := []
  /-- The numbers of the clients that can be written to. -/
  writable : List Nat := []
  deriving DecidableEq, Repr

/-- How many things are ready. -/
def Readiness.size (ready : Readiness) : Nat :=
  ready.accepted.length + ready.readable.length + ready.writable.length

namespace Server

/-- How many units of the clock a millisecond has. -/
def clockRate : Nat := 1000000

/-- Admits a client under the next number. -/
def welcome (now : Nat) (connection : Connection) (server : Server) : Server :=
  let session := Session.new server.nextId connection.peer connection.transport
    server.config.maxRequestHeaderSize server.config.writeChunkSize now
  { server with
    sessions := server.sessions ++ [(server.nextId, session)]
    nextId := server.nextId + 1 }

/-- Admits clients in order, as long as the server listens for any. -/
def welcomeAll (now : Nat) (connections : List Connection) (server : Server) : Server :=
  if server.listeners.isEmpty then server
  else connections.foldl (fun server connection => server.welcome now connection) server

/-- The server without the client of this number. -/
def remove (id : Nat) (server : Server) : Server :=
  { server with sessions := server.sessions.filter fun (key, _) => key != id }

/-- The server with another state for the client of this number. -/
def update (id : Nat) (session : Session) (server : Server) : Server :=
  { server with
    sessions := server.sessions.map fun (key, old) => (key, if key = id then session else old) }

/-- Lets an event happen to the client of this number, if it is still there. -/
def handle (event : Session → Flow × Session) (id : Nat) (server : Server) :
    List Ending × Server :=
  match server.sessions.lookup id with
  | none => ([], server)
  | some session =>
    match event session with
    -- The other sessions and the stores are not touched.
    | (.keep, session) => ([], server.update id session)
    | (.close reason, session) => ([{ id, reason, session }], server.remove id)

/-- Lets an event happen to several clients, one after the other. -/
def handleAll (event : Session → Flow × Session) (ids : List Nat) (server : Server) :
    List Ending × Server :=
  match ids with
  | [] => ([], server)
  | id :: rest =>
    let (first, server) := handle event id server
    let (others, server) := handleAll event rest server
    (first ++ others, server)

/-- Ends the sessions that were idle for too long. -/
def sweep (now : Nat) (server : Server) : List Ending × Server :=
  let timeout := server.config.keepAliveTimeout * clockRate
  let (idle, busy) := server.sessions.partition fun (_, session) => session.isIdle now timeout
  (idle.map fun (id, session) => { id, reason := .timedOut, session },
    { server with sessions := busy })

/-- One tick, which begins at `now` and looks for idle sessions at `later`. -/
def tick (now later : Nat) (files : FileSystem) (ready : Readiness) (server : Server) :
    List Ending × Server :=
  let server := server.welcomeAll now ready.accepted
  let receive := fun session => Session.receive session now server.router files server.sources
  let send := fun session => Session.send session now files server.sources
  -- Reads come first, but the choice of who writes was made before them.
  let (afterReads, server) := server.handleAll receive ready.readable
  let (afterWrites, server) := server.handleAll send ready.writable
  let (swept, server) := server.sweep later
  (afterReads ++ afterWrites ++ swept, server)

/-- Ends every session and listens no more. -/
def shutdown (server : Server) : List Ending × Server :=
  (server.sessions.map fun (id, session) => { id, reason := .shutdown, session },
    { server with sessions := [], listeners := [] })

/-- A read would move something or fail. -/
def isReadable (session : Session) : Bool :=
  session.wantsRead && (!session.transport.arrivals.isEmpty || session.transport.hasEnded)

/-- What is ready when these clients wait to be admitted: one of them for every listener, and the
sessions that have something to read or to write. -/
def ready (waiting : List Connection) (server : Server) : Readiness where
  accepted := waiting.take server.listeners.length
  readable := (server.sessions.filter fun (_, session) => isReadable session).map (·.1)
  writable := (server.sessions.filter fun (_, session) => session.wantsWrite server.sources).map
    (·.1)

/-- What becomes of a server and of the clients that wait. -/
structure Served where
  /-- The sessions that ended, in order. -/
  endings : List Ending
  /-- The time that it is now. -/
  now : Nat
  /-- The clients that were not admitted. -/
  waiting : List Connection
  server : Server

/-- Ticks until nothing is ready, at most `limit` times. -/
def serveFor (limit now : Nat) (files : FileSystem) (waiting : List Connection) (server : Server) :
    Served :=
  match limit with
  | 0 => { endings := [], now, waiting, server }
  | limit + 1 =>
    let ready := server.ready waiting
    if ready.size = 0 then { endings := [], now, waiting, server }
    else
      let (endings, server) := server.tick now (now + 1) files ready
      let served :=
        serveFor limit (now + 1) files (waiting.drop ready.accepted.length) server
      { served with endings := endings ++ served.endings }

/-- More ticks than are needed to move, byte by byte, an answer of every length at hand for every
byte that was sent and for every client. -/
def tickLimit (files : FileSystem) (waiting : List Connection) (server : Server) : Nat :=
  let transports := waiting.map (·.transport) ++ server.sessions.map (·.2.transport)
  let arriving := transports.foldl (fun n t => n + t.unread.length + t.arrivals.length) 0
  let contents := files.contents.foldl (fun n content => n + content.size) 0
  let frames := server.sources.stores.foldl (fun n store => n + Frame.partSize store.maxPayload) 0
  (arriving + transports.length + 1) * (contents + frames + 4096)

/-- Ticks until nothing is ready. -/
def serve (now : Nat) (files : FileSystem) (waiting : List Connection) (server : Server) : Served :=
  server.serveFor (server.tickLimit files waiting) now files waiting

/-- Captures once, serves until nothing is ready and shuts down. -/
def run (now : Nat) (files : FileSystem) (waiting : List Connection) (server : Server) : Served :=
  let served := server.captureAll.serve now files waiting
  let (endings, server) := served.server.shutdown
  { served with endings := served.endings ++ endings, server }

end Server

end MotionJpeg
