import MotionJpeg.Proofs.Frame.History
import MotionJpeg.Server.Tick

/-!
# Services

A service is a server at work, together with the sessions that ended on it so far. Events come in
any order: captures and pushes, changes of a client's network, ticks with any choice of what is
ready, and the shutdown.

* `Service.step` is what an event does, `Service.run` what a list of events does.
* `Server.SameRest` says that two servers differ in their sessions alone. It holds of a server and
  what becomes of it, whatever happens to its clients.
* `Server.tick_eq` cuts a tick into its parts.
-/

namespace MotionJpeg

/-- The session when its connection behaves like `future` from here on. What the peer was given
stays given. -/
def Session.reroute (future : Transport) (session : Session) : Session :=
  { session with transport := { future with pieces := session.transport.pieces } }

namespace Server

/-- The servers differ in their sessions alone. -/
def SameRest (first second : Server) : Prop := second = { first with sessions := second.sessions }

section SameRest

variable {first second third : Server}

theorem SameRest.nextId (h : SameRest first second) : second.nextId = first.nextId :=
  congrArg (·.nextId) h

theorem SameRest.listeners (h : SameRest first second) : second.listeners = first.listeners :=
  congrArg (·.listeners) h

theorem SameRest.trans (h : SameRest first second) (hnext : SameRest second third) :
    SameRest first third := by
  unfold SameRest at h hnext ⊢
  rw [hnext, h]

end SameRest

variable (server : Server) (event : Session → Flow × Session)

/-- An event of a client changes nothing but the sessions. -/
theorem sameRest_handle (id : Nat) : SameRest server (server.handle event id).2 := by
  unfold handle
  split
  · rfl
  · split <;> rfl

/-- Events of several clients change nothing but the sessions. -/
theorem sameRest_handleAll (ids : List Nat) : SameRest server (server.handleAll event ids).2 := by
  induction ids generalizing server with
  | nil => rfl
  | cons id rest ih => exact (server.sameRest_handle event id).trans (ih _)

/-- A sweep changes nothing but the sessions. -/
theorem sameRest_sweep (now : Nat) : SameRest server (server.sweep now).2 := rfl

/-- Reads, writes and a sweep, one after the other. -/
def attend (receive send : Session → Flow × Session) (sweep : Server → List Ending × Server)
    (ready : Readiness) : List Ending × Server :=
  let (afterReads, server) := server.handleAll receive ready.readable
  let (afterWrites, server) := server.handleAll send ready.writable
  let (swept, server) := sweep server
  (afterReads ++ afterWrites ++ swept, server)

/-- A tick admits clients and attends to those that are ready. Its sweep is a parameter of
`attend`, so that nobody has to look into it. -/
theorem tick_eq (now later : Nat) (files : FileSystem) (ready : Readiness) :
    server.tick now later files ready =
      (server.welcomeAll now ready.accepted).attend
        (fun session =>
          session.receive now (server.welcomeAll now ready.accepted).router files
            (server.welcomeAll now ready.accepted).sources)
        (fun session => session.send now files (server.welcomeAll now ready.accepted).sources)
        (sweep later) ready := rfl

/-- To attend to clients changes nothing but the sessions. -/
theorem sameRest_attend (receive send : Session → Flow × Session)
    {sweep : Server → List Ending × Server} (hsweep : ∀ server, SameRest server (sweep server).2)
    (ready : Readiness) : SameRest server (server.attend receive send sweep ready).2 :=
  ((sameRest_handleAll _ _ _).trans (sameRest_handleAll _ _ _)).trans (hsweep _)

/-- A tick changes nothing but the sessions once it has admitted the clients that ask for it. -/
theorem sameRest_tick (now later : Nat) (files : FileSystem) (ready : Readiness) :
    SameRest (server.welcomeAll now ready.accepted) (server.tick now later files ready).2 := by
  rw [tick_eq]
  exact sameRest_attend _ _ _ (fun server => server.sameRest_sweep later) ready

/-- The session is as new as it is when a client is welcomed under this number. -/
def IsNewcomer (now id : Nat) (session : Session) : Prop :=
  ∃ peer transport headerLimit chunkSize,
    session = .new id peer transport headerLimit chunkSize now

/-- To welcome clients adds their sessions under the next numbers and changes nothing else. -/
theorem foldl_welcome_eq (now : Nat) (connections : List Connection) :
    ∃ newcomers,
      connections.foldl (fun server connection => server.welcome now connection) server =
        { server with
          sessions := server.sessions ++ newcomers
          nextId := server.nextId + newcomers.length } ∧
      newcomers.length = connections.length ∧
      newcomers.map Prod.fst = List.range' server.nextId newcomers.length ∧
      ∀ entry ∈ newcomers, IsNewcomer now entry.1 entry.2 := by
  -- Induction on the connections, each of which finds the clients before it in the table.
  induction connections generalizing server with
  | nil =>
    refine ⟨[], ?_, rfl, rfl, by simp⟩
    rw [List.append_nil]
    rfl
  | cons connection rest ih =>
    obtain ⟨newcomers, heq, hlength, hkeys, hnew⟩ := ih (server.welcome now connection)
    let newcomer : Session := .new server.nextId connection.peer connection.transport
      server.config.maxRequestHeaderSize server.config.writeChunkSize now
    refine ⟨(server.nextId, newcomer) :: newcomers, heq.trans ?_, ?_, ?_, ?_⟩
    · rw [← List.singleton_append, ← List.append_assoc, List.length_append, List.length_singleton,
        ← Nat.add_assoc]
      rfl
    · rw [List.length_cons, List.length_cons, hlength]
    · rw [List.map_cons, hkeys, List.length_cons, List.range'_succ]
      rfl
    · intro entry hentry
      rcases List.mem_cons.mp hentry with rfl | hlater
      · exact ⟨_, _, _, _, rfl⟩
      · exact hnew entry hlater

/-- Clients that are admitted take the next numbers. -/
theorem welcomeAll_eq (now : Nat) (connections : List Connection) :
    ∃ newcomers,
      server.welcomeAll now connections =
        { server with
          sessions := server.sessions ++ newcomers
          nextId := server.nextId + newcomers.length } ∧
      (server.listeners ≠ [] → newcomers.length = connections.length) ∧
      newcomers.map Prod.fst = List.range' server.nextId newcomers.length ∧
      ∀ entry ∈ newcomers, IsNewcomer now entry.1 entry.2 := by
  unfold welcomeAll
  by_cases hdeaf : server.listeners.isEmpty
  · rw [if_pos hdeaf]
    refine ⟨[], ?_, ?_, rfl, by simp⟩
    · rw [List.append_nil]
      rfl
    · intro hlistens
      exact absurd (by simpa using hdeaf) hlistens
  · rw [if_neg hdeaf]
    obtain ⟨newcomers, heq, hlength, hkeys, hnew⟩ := server.foldl_welcome_eq now connections
    exact ⟨newcomers, heq, fun _ => hlength, hkeys, hnew⟩

end Server

/-- A server and the sessions that ended on it, in order. -/
structure Service where
  server : Server
  endings : List Ending := []

namespace Service

/-- Something that happens to a service. -/
inductive Event where
  /-- Every source is captured from once. -/
  | capture
  /-- A payload is offered to a store. -/
  | push (offered : Push)
  /-- From here on the connection of the client with this number behaves like `future`. -/
  | network (id : Nat) (future : Transport)
  /-- The server attends to what is ready. -/
  | tick (now later : Nat) (files : FileSystem) (ready : Readiness)
  /-- The server disconnects every client and listens no more. -/
  | shutdown

/-- The clients that ask to be admitted. -/
def Event.connections : Event → List Connection
  | tick _ _ _ ready => ready.accepted
  | capture | push _ | network .. | shutdown => []

variable (service : Service)

/-- The service with another server, after these sessions have ended too. -/
def goOn (outcome : List Ending × Server) : Service :=
  { server := outcome.2, endings := service.endings ++ outcome.1 }

/-- The service after an event. -/
def step : Event → Service
  | .capture => { service with server := service.server.captureAll }
  | .push offered =>
    { service with
      server.sources := service.server.sources.pushed offered.source offered.payload }
  | .network id future =>
    service.goOn (service.server.handle (fun session => (.keep, session.reroute future)) id)
  | .tick now later files ready => service.goOn (service.server.tick now later files ready)
  | .shutdown => service.goOn service.server.shutdown

/-- The service after some events. -/
def run (events : List Event) : Service := events.foldl step service

/-- A run goes on where the run of its first events ends. -/
theorem run_append (earlier later : List Event) :
    service.run (earlier ++ later) = (service.run earlier).run later :=
  List.foldl_append

/-- A server that listens has listened before, and has given every client that came a number. -/
theorem nextId_step (event : Event) (hlistens : (service.step event).server.listeners ≠ []) :
    service.server.listeners ≠ [] ∧
      (service.step event).server.nextId = service.server.nextId + event.connections.length := by
  cases event with
  | capture | push => exact ⟨hlistens, rfl⟩
  | network id future =>
    have hrest := service.server.sameRest_handle (fun session => (.keep, session.reroute future)) id
    exact ⟨hrest.listeners ▸ hlistens, hrest.nextId⟩
  | tick now later files ready =>
    obtain ⟨newcomers, hwelcome, hlength, -⟩ :=
      service.server.welcomeAll_eq now ready.accepted
    have hrest := service.server.sameRest_tick now later files ready
    rw [hwelcome] at hrest
    have hbefore : service.server.listeners ≠ [] := hrest.listeners ▸ hlistens
    refine ⟨hbefore, hrest.nextId.trans ?_⟩
    show service.server.nextId + newcomers.length = service.server.nextId + ready.accepted.length
    rw [hlength hbefore]
  | shutdown => exact absurd rfl hlistens

end Service

end MotionJpeg
