import MotionJpeg.Proofs.Server.Captures
import MotionJpeg.Proofs.Server.Isolation
import MotionJpeg.Proofs.Server.Treatment
import MotionJpeg.Proofs.Session.Reuse

/-!
# The table of clients

Every client is in the table from when it is admitted until it is removed, under a number that no
other client has or had or will have.

* `Session.Seated` is what is true of every session of the table, `Service.Orderly` of the table.
* `Service.Event.treatment` is what an event does to the session of every client.
* `Service.treats_step`: no event does anything else to the table.
* `Service.table_integrity` is what holds along every run.
-/

namespace MotionJpeg

/-- The session is that of the client with this number, has what its phase needs and is not over. -/
structure Session.Seated (sources : Registry) (id : Nat) (session : Session) : Prop where
  id_eq : session.id = id
  sound : session.Sound sources
  isOpen : session.phase ≠ .closed

namespace Session.Seated

variable {sources : Registry} {id : Nat} {session next : Session}

/-- A client that has just come has what it needs. -/
theorem ofNewcomer {now : Nat} (h : Server.IsNewcomer now id session) (sources : Registry) :
    session.Seated sources id := by
  obtain ⟨peer, transport, headerLimit, chunkSize, rfl⟩ := h
  exact ⟨rfl, .of_idle (Or.inl rfl) (Nat.zero_le _), Phase.noConfusion⟩

/-- A session needs nothing of its connection. -/
theorem reroute (h : session.Seated sources id) (future : Transport) :
    (session.reroute future).Seated sources id :=
  ⟨h.id_eq, h.sound.onTransport _, h.isOpen⟩

/-- What a session needs of its stores is that they are there. -/
theorem congr (h : session.Seated sources id) {others : Registry}
    (hsize : others.size = sources.size) : session.Seated others id :=
  ⟨h.id_eq, h.sound.congr hsize, h.isOpen⟩

/-- A session that goes on is that of the same client, and it is not over. -/
private theorem of_turn (h : session.Seated sources id) (hclient : session.SameClient next)
    {hungUp : Prop} (hturn : Turn session.phase sources hungUp (.keep, next)) :
    next.Seated sources id := by
  cases hturn with
  | goesOn _ hsound _ hopen => exact ⟨hclient.id_eq.trans h.id_eq, hsound, hopen⟩

variable {now : Nat} {files : FileSystem}

/-- A session that goes on after an attempt to read is not over. -/
theorem receive (h : session.Seated sources id) {router : Router}
    (hnext : session.receive now router files sources = (.keep, next)) :
    next.Seated sources id := by
  have hclient := Exchange.sameClient_step ⟨session, sources⟩ (.receive now router files)
  have hturn := h.sound.receive files h.isOpen now router
  rw [Exchange.step, hnext] at hclient
  rw [hnext] at hturn
  exact h.of_turn hclient hturn

/-- A session that goes on after an attempt to send is not over. -/
theorem send (h : session.Seated sources id)
    (hnext : session.send now files sources = (.keep, next)) : next.Seated sources id := by
  have hclient := session.sameClient_send now files sources
  have hturn := h.sound.send now files h.isOpen
  rw [hnext] at hclient hturn
  exact h.of_turn hclient hturn

end Session.Seated

namespace Service

section Definitions

variable (server : Server)

/-- The server with the clients that an event admits. -/
def Event.welcoming : Event → Server
  | tick now _ _ ready => server.welcomeAll now ready.accepted
  | capture | push _ | network .. | shutdown => server

/-- What an event does to the session of every client that is there when it has admitted those that
ask for it. A tick reads from it if it is readable, writes to it if it is writable and looks whether
it was idle for too long. -/
def Event.treatment : Event → Treatment
  | capture | push _ => .leave
  | network id future => .only id fun session => (.keep, session.reroute future)
  | tick now later files ready =>
    let receive (session : Session) := session.receive now server.router files server.sources
    let send (session : Session) := session.send now files server.sources
    ((Treatment.each receive ready.readable).followedBy (.each send ready.writable)).followedBy
      (.expire later (server.config.keepAliveTimeout * Server.clockRate))
  | shutdown => .endAll .shutdown

end Definitions

/-- The table of clients is in order, when `first` was the number of the first client. -/
structure Orderly (service : Service) (first : Nat) : Prop where
  seated : ∀ entry ∈ service.server.sessions, entry.2.Seated service.server.sources entry.1
  /-- Who came first stands first. -/
  ascending : (service.server.sessions.map Prod.fst).Pairwise (· < ·)
  first_le : first ≤ service.server.nextId
  /-- Every number that was given is that of one client, which is in the table or has ended. -/
  perm_numbers : (service.endings.map Ending.id ++ service.server.sessions.map Prod.fst).Perm
    (List.range' first (service.server.nextId - first))

section Step

variable (service : Service) (event : Event)

/-- No event adds sources or takes any away. -/
theorem size_sources_step :
    (service.step event).server.sources.size = service.server.sources.size := by
  cases event with
  | capture => exact Server.size_captureSlots service.server.sources 0 service.server.capture
  | push offered => exact Registry.size_pushed service.server.sources offered.source offered.payload
  | network | tick | shutdown =>
    exact congrArg Registry.size (service.sources_step_of_clients rfl rfl).2

/-- The clients that an event admits are those that come to the table by it. -/
theorem nextId_step_eq :
    (service.step event).server.nextId = (event.welcoming service.server).nextId := by
  cases event with
  | capture | push | shutdown => rfl
  | network id future =>
    have hrest := service.server.sameRest_handle (fun session => (.keep, session.reroute future)) id
    exact hrest.nextId
  | tick now later files ready => exact (service.server.sameRest_tick now later files ready).nextId

/-- An event does to the table what its treatment does to every session. -/
theorem treats_step (hkeys : ((event.welcoming service.server).sessions.map Prod.fst).Nodup) :
    ∃ fresh, (service.step event).endings = service.endings ++ fresh ∧
      (event.welcoming service.server).Treats (event.treatment service.server)
        (fresh, (service.step event).server) := by
  cases event with
  | capture | push =>
    refine ⟨[], (List.append_nil _).symm, (Treatment.kept_leave _).symm, ?_⟩
    exact .of_eq (Treatment.ended_leave _).symm
  | network id future => exact ⟨_, rfl, Server.treats_handle hkeys _ id⟩
  | tick now later files ready =>
    obtain ⟨newcomers, hwelcome, -⟩ := service.server.welcomeAll_eq now ready.accepted
    refine ⟨_, rfl, ?_⟩
    show (service.server.welcomeAll now ready.accepted).Treats _
      (service.server.tick now later files ready)
    have hadmitted : ((service.server.welcomeAll now ready.accepted).sessions.map Prod.fst).Nodup :=
      hkeys
    rw [hwelcome] at hadmitted
    rw [Server.tick_eq, hwelcome]
    -- The timeout is that of the configuration, which is the same when the sweep comes.
    apply Server.treats_attend hadmitted
    intro next hrest
    have hconfig : next.config = service.server.config := congrArg (·.config) hrest
    rw [← hconfig]
    exact next.treats_sweep later
  | shutdown => exact ⟨_, rfl, service.server.treats_shutdown⟩

/-- The clients that an event admits come after the others, under the next numbers. As long as the
server listens these are all that ask for it. -/
theorem exists_admitted (server : Server) :
    ∃ newcomers, (event.welcoming server).sessions = server.sessions ++ newcomers ∧
      (event.welcoming server).nextId = server.nextId + newcomers.length ∧
      (server.listeners ≠ [] → newcomers.length = event.connections.length) ∧
      newcomers.map Prod.fst = List.range' server.nextId newcomers.length ∧
      ∀ entry ∈ newcomers, entry.2.Seated server.sources entry.1 := by
  cases event with
  | tick now later files ready =>
    obtain ⟨newcomers, hwelcome, hlength, hkeys, hnew⟩ := server.welcomeAll_eq now ready.accepted
    refine ⟨newcomers, congrArg (·.sessions) hwelcome, congrArg (·.nextId) hwelcome, hlength, hkeys,
      ?_⟩
    intro entry hentry
    exact .ofNewcomer (hnew entry hentry) server.sources
  | capture | push | network | shutdown =>
    exact ⟨[], (List.append_nil _).symm, rfl, fun _ => rfl, rfl, by simp⟩

/-- No event leaves a session in the table that is over. -/
theorem preserves_treatment (server : Server) : (event.treatment server).Preserves
    fun id session => session.Seated server.sources id := by
  cases event with
  | capture | push => exact .leave _
  | network id future =>
    apply Treatment.Preserves.only
    rintro key session _ hseated ⟨⟩
    exact hseated.reroute future
  | tick now later files ready =>
    refine Treatment.Preserves.followedBy (.followedBy (.each ?_ _) (.each ?_ _)) (.expire _ _ _)
    · intro id session next hseated hnext
      exact hseated.receive hnext
    · intro id session next hseated hnext
      exact hseated.send hnext
  | shutdown =>
    rintro id session next - ⟨⟩

end Step

namespace Orderly

variable {service : Service} {first : Nat}

/-- A server on which nobody was yet is in order. -/
theorem ofEmpty (hsessions : service.server.sessions = []) (hendings : service.endings = []) :
    service.Orderly service.server.nextId where
  seated := by simp [hsessions]
  ascending := by simp [hsessions]
  first_le := Nat.le_refl _
  perm_numbers := by simp [hsessions, hendings]

/-- A number that was given is that of a client in the table or of one that has ended. -/
theorem mem_numbers_iff (h : service.Orderly first) (id : Nat) :
    id ∈ service.endings.map Ending.id ∨ id ∈ service.server.sessions.map Prod.fst ↔
      first ≤ id ∧ id < service.server.nextId := by
  have hfirst := h.first_le
  rw [← List.mem_append, h.perm_numbers.mem_iff, List.mem_range'_1]
  omega

/-- Clients that have ended are not in the table. -/
theorem notMem_of_ended (h : service.Orderly first) {id : Nat}
    (hended : id ∈ service.endings.map Ending.id) : id ∉ service.server.sessions.map Prod.fst := by
  have hnodup : (service.endings.map Ending.id ++ service.server.sessions.map Prod.fst).Nodup :=
    h.perm_numbers.nodup_iff.mpr List.nodup_range'
  intro hmem
  exact (List.nodup_append.mp hnodup).2.2 id hended id hmem rfl

/-- The clients that an event admits have higher numbers than those that are there. -/
theorem ascending_admitted (h : service.Orderly first) (event : Event) :
    ((event.welcoming service.server).sessions.map Prod.fst).Pairwise (· < ·) := by
  obtain ⟨newcomers, hsessions, -, -, hkeys, -⟩ := exists_admitted event service.server
  rw [hsessions, List.map_append, hkeys]
  refine List.pairwise_append.mpr ⟨h.ascending, List.pairwise_lt_range', ?_⟩
  intro old hold number hnumber
  have hlt := ((h.mem_numbers_iff old).mp (Or.inr hold)).2
  have hle := (List.mem_range'_1.mp hnumber).1
  omega

theorem nodup_admitted (h : service.Orderly first) (event : Event) :
    ((event.welcoming service.server).sessions.map Prod.fst).Nodup :=
  (h.ascending_admitted event).imp fun hlt => Nat.ne_of_lt hlt

open scoped List in
/-- After every event the table is in order. -/
theorem step (h : service.Orderly first) (event : Event) : (service.step event).Orderly first := by
  obtain ⟨newcomers, hsessions, hnext, -, hkeys, hnew⟩ := exists_admitted event service.server
  obtain ⟨fresh, hendings, htreats⟩ := service.treats_step event (h.nodup_admitted event)
  have hfirst := h.first_le
  have hcount := (service.nextId_step_eq event).trans hnext
  refine ⟨?_, ?_, by omega, ?_⟩
  · have hseated : ∀ entry ∈ (event.welcoming service.server).sessions,
        entry.2.Seated service.server.sources entry.1 := by
      rw [hsessions]
      intro entry hentry
      exact (List.mem_append.mp hentry).elim (h.seated entry) (hnew entry)
    intro entry hentry
    rw [htreats.sessions_eq] at hentry
    have hstands := (preserves_treatment event service.server).forall_mem_kept hseated entry hentry
    exact hstands.congr (service.size_sources_step event)
  · show ((service.step event).server.sessions.map Prod.fst).Pairwise _
    rw [htreats.sessions_eq]
    exact (h.ascending_admitted event).sublist (Treatment.sublist_keys _ _)
  · -- Whoever was in the table or came to it is there now or has ended.
    rw [hcount, Nat.sub_add_comm hfirst, ← List.range'_append_1, Nat.add_sub_cancel' hfirst]
    calc (service.step event).endings.map Ending.id ++
          (service.step event).server.sessions.map Prod.fst
      _ = service.endings.map Ending.id ++
            (fresh.map Ending.id ++ (service.step event).server.sessions.map Prod.fst) := by
          rw [hendings, List.map_append, List.append_assoc]
      _ ~ service.endings.map Ending.id ++ (event.welcoming service.server).sessions.map Prod.fst :=
          htreats.perm_keys.append_left _
      _ = service.endings.map Ending.id ++ service.server.sessions.map Prod.fst ++
            List.range' service.server.nextId newcomers.length := by
          rw [hsessions, List.map_append, hkeys, List.append_assoc]
      _ ~ List.range' first (service.server.nextId - first) ++
            List.range' service.server.nextId newcomers.length :=
          h.perm_numbers.append_right _

/-- Along every run the table is in order. -/
theorem run (h : service.Orderly first) (events : List Event) :
    (service.run events).Orderly first := by
  induction events generalizing service with
  | nil => exact h
  | cons event rest ih => exact ih (h.step event)

end Orderly

section Shutdown

/-- Nobody is connected, and nobody can connect. -/
structure IsDown (service : Service) : Prop where
  sessions_eq : service.server.sessions = []
  listeners_eq : service.server.listeners = []

variable {service : Service}

/-- A server that is down stays down and has nothing to do with clients. -/
theorem IsDown.step (h : service.IsDown) (event : Event) : (service.step event).IsDown ∧
    (service.step event).server.nextId = service.server.nextId ∧
    (service.step event).endings = service.endings := by
  -- Connections that wait are not accepted.
  have hwelcoming : event.welcoming service.server = service.server := by
    cases event with
    | tick now later files ready => exact if_pos (by rw [h.listeners_eq]; rfl)
    | capture | push | network | shutdown => rfl
  have hlisteners : (service.step event).server.listeners = [] := by
    by_contra hlistens
    exact (service.nextId_step event hlistens).1 h.listeners_eq
  have hkeys : ((event.welcoming service.server).sessions.map Prod.fst).Nodup := by
    rw [hwelcoming, h.sessions_eq]
    exact List.nodup_nil
  obtain ⟨fresh, hendings, htreats⟩ := service.treats_step event hkeys
  obtain ⟨hsessions, hfresh⟩ := htreats
  rw [hwelcoming, h.sessions_eq] at hsessions hfresh
  obtain rfl : fresh = [] := hfresh.eq_nil
  refine ⟨⟨hsessions, hlisteners⟩, ?_, hendings.trans (List.append_nil _)⟩
  rw [nextId_step_eq, hwelcoming]

theorem IsDown.run (h : service.IsDown) (events : List Event) : (service.run events).IsDown ∧
    (service.run events).server.nextId = service.server.nextId ∧
    (service.run events).endings = service.endings := by
  induction events generalizing service with
  | nil => exact ⟨h, rfl, rfl⟩
  | cons event rest ih =>
    obtain ⟨hdown, hnext, hendings⟩ := h.step event
    obtain ⟨hlast, hnumber, hended⟩ := ih hdown
    exact ⟨hlast, hnumber.trans hnext, hended.trans hendings⟩

/-- A server that was shut down is down, whatever came after. -/
theorem isDown_of_mem {events : List Event} (hshutdown : Event.shutdown ∈ events) :
    (service.run events).IsDown := by
  obtain ⟨earlier, later, rfl⟩ := List.append_of_mem hshutdown
  rw [run_append]
  have hdown : ((service.run earlier).step .shutdown).IsDown := ⟨rfl, rfl⟩
  exact (hdown.run later).1

end Shutdown

/-- Along every run of a server that nobody was connected to, whatever is ready in its ticks and
whatever the connections do:

* Every client is in the table under the number of its session, and no session in it is over.
* Every number that was given is that of one client, which is in the table or has ended, and the
  numbers ascend.
* An event admits the clients that ask for it under the next numbers, and then does to every session
  what the event is for this session alone. A session is removed exactly if this closes it, and as
  what it was then.
* What has ended stays as it is, and its number does not come back. After the shutdown nobody is in
  the table, and nobody comes.
-/
theorem table_integrity {server : Server} (hempty : server.sessions = []) (events : List Event) :
    let before := Service.run { server } events
    let table := before.server.sessions
    (∀ entry ∈ table, entry.2.id = entry.1 ∧ entry.1 < before.server.nextId ∧
      entry.2.phase ≠ .closed) ∧
    (table.map Prod.fst).Pairwise (· < ·) ∧
    (before.endings.map Ending.id ++ table.map Prod.fst).Perm
      (List.range' server.nextId (before.server.nextId - server.nextId)) ∧
    (∀ event, let after := before.step event
      ∃ newcomers fresh, (event.welcoming before.server).sessions = table ++ newcomers ∧
        (before.server.listeners ≠ [] → newcomers.length = event.connections.length) ∧
        newcomers.map Prod.fst = List.range' before.server.nextId newcomers.length ∧
        after.server.nextId = before.server.nextId + newcomers.length ∧
        after.server.sessions = (event.treatment before.server).kept (table ++ newcomers) ∧
        after.endings = before.endings ++ fresh ∧
        fresh.Perm ((event.treatment before.server).ended (table ++ newcomers))) ∧
    ∀ later, let after := before.run later
      before.endings <+: after.endings ∧
      (∀ id < before.server.nextId, id ∉ table.map Prod.fst →
        id ∉ after.server.sessions.map Prod.fst) ∧
      (Event.shutdown ∈ events → after.server.sessions = [] ∧
        after.server.nextId = before.server.nextId) := by
  intro before table
  have horderly : before.Orderly server.nextId := (Orderly.ofEmpty hempty rfl).run events
  refine ⟨?_, horderly.ascending, horderly.perm_numbers, ?_, ?_⟩
  · intro entry hentry
    have hseated := horderly.seated entry hentry
    have hnumber := (horderly.mem_numbers_iff entry.1).mp (Or.inr (List.mem_map_of_mem hentry))
    exact ⟨hseated.id_eq, hnumber.2, hseated.isOpen⟩
  · intro event after
    obtain ⟨newcomers, hsessions, hnext, hlength, hkeys, -⟩ := exists_admitted event before.server
    obtain ⟨fresh, hendings, htreats⟩ := before.treats_step event (horderly.nodup_admitted event)
    obtain ⟨hkept, hended⟩ := htreats
    -- The table that is treated is the one before the event with the newcomers.
    rw [hsessions] at hkept hended
    exact ⟨newcomers, fresh, hsessions, hlength, hkeys, (before.nextId_step_eq event).trans hnext,
      hkept, hendings, hended⟩
  · intro later after
    have hstays := before.endings_run later
    refine ⟨hstays, ?_, ?_⟩
    · intro id hlt hgone hback
      have hafter : after.Orderly server.nextId := horderly.run later
      -- The number was given before, so its client had ended already.
      have hgiven := (hafter.mem_numbers_iff id).mp (Or.inr hback)
      have hended := (horderly.mem_numbers_iff id).mpr ⟨hgiven.1, hlt⟩
      have hstill := (hstays.map Ending.id).subset (hended.resolve_right hgone)
      exact hafter.notMem_of_ended hstill hback
    · intro hshutdown
      obtain ⟨hdown, hnext, -⟩ := (isDown_of_mem hshutdown).run later
      exact ⟨hdown.sessions_eq, hnext⟩

section LastOrders

/-- The second of two clients has hung up when the server looks, and is found writable all the same.
A third one comes after the shutdown. -/
def lastOrders : List Event :=
  [.tick 0 1 {} { accepted := [⟨.v4 .loopback 5000, {}⟩, ⟨.v4 .loopback 5001, {}⟩] },
    .network 2 { hasEnded := true },
    .tick 2 3 {} { readable := [2], writable := [2, 1] },
    .shutdown,
    .tick 4 5 {} { accepted := [⟨.v4 .loopback 5002, {}⟩] }]

/-- The number of the second client was given once, and the third client gets none. -/
theorem table_integrity_lastOrders :
    lobby.server.sessions = [] ∧
      let before := lobby.run lastOrders
      before.endings.map (fun ending => (ending.id, ending.reason)) =
        [(2, .peerClosed), (1, .shutdown)] ∧
      (before.endings.map Ending.id ++ before.server.sessions.map Prod.fst).Perm [1, 2] ∧
      ∀ later, (before.run later).server.sessions = [] ∧ (before.run later).server.nextId = 3 := by
  have hempty : lobby.server.sessions = [] := rfl
  obtain ⟨-, -, hnumbers, -, hlater⟩ := table_integrity hempty lastOrders
  have hnext : (lobby.run lastOrders).server.nextId = 3 := by decide +kernel
  refine ⟨hempty, by decide +kernel, ?_, ?_⟩
  · rw [← show List.range' 1 (3 - 1) = [1, 2] from rfl, ← hnext]
    exact hnumbers
  · intro later
    obtain ⟨-, -, hdown⟩ := hlater later
    rw [← hnext]
    exact hdown (by simp [lastOrders])

end LastOrders

end Service

end MotionJpeg
