import Mathlib.Data.Nat.Count
import MotionJpeg.Proofs.Server.Service
import MotionJpeg.Proofs.Session.Number

/-!
# Services without some of their clients

Some clients of a service stay and the others are left out of it, also those that are still to
come. The clients that stay are numbered anew, without gaps.

* `Server.renumber` gives the new numbers.
* `Server.restrict`, `Service.restrict` and `Service.Event.restrictAll` leave the other clients out
  of a state and out of what happens.
* `Service.run_restrictAll`: a run without the other clients leads to what the whole run leads to, less
  the other clients.
-/

namespace MotionJpeg

/-- What an event does to a session does not depend on its number. -/
def Session.IgnoresNumber (event : Session → Flow × Session) : Prop :=
  ∀ session number, event (session.numbered number) = outcomeUnder number (event session)

namespace Server

section Definitions

variable (stays : Nat → Prop) [DecidablePred stays]

/-- The number of a client among those that stay. -/
def renumber (id : Nat) : Nat := Nat.count stays id

/-- The numbers of the clients that stay, renumbered. -/
def restrictIds (ids : List Nat) : List Nat :=
  (ids.filter fun id => stays id).map (renumber stays)

/-- The table without the clients that leave. -/
def restrictTable (table : List (Nat × Session)) : List (Nat × Session) :=
  (table.filter fun entry => stays entry.1).map fun entry =>
    (renumber stays entry.1, entry.2.numbered (renumber stays entry.1))

/-- The endings without those of the clients that leave. -/
def restrictEndings (endings : List Ending) : List Ending :=
  (endings.filter fun ending => stays ending.id).map fun ending =>
    { ending with
      id := renumber stays ending.id
      session := ending.session.numbered (renumber stays ending.id) }

/-- The connections of the clients that stay, when `next` is the number of the first client. -/
def restrictConnections (next : Nat) : List Connection → List Connection
  | [] => []
  | connection :: rest =>
    if stays next then connection :: restrictConnections (next + 1) rest
    else restrictConnections (next + 1) rest

/-- What of some readiness is that of the clients that stay, when `next` is the number of the first
client to be admitted. -/
def restrictReadiness (next : Nat) (ready : Readiness) : Readiness where
  accepted := restrictConnections stays next ready.accepted
  readable := restrictIds stays ready.readable
  writable := restrictIds stays ready.writable

/-- The server without the clients that leave. -/
def restrict (server : Server) : Server :=
  { server with
    sessions := restrictTable stays server.sessions
    nextId := renumber stays server.nextId }

/-- What comes of an event, without the clients that leave. -/
def restrictOutcome (outcome : List Ending × Server) : List Ending × Server :=
  (restrictEndings stays outcome.1, outcome.2.restrict stays)

end Definitions

variable {stays : Nat → Prop}

/-- A client that stays is not one that leaves. -/
theorem ne_of_leaves {first second : Nat} (hfirst : stays first) (hsecond : ¬ stays second) :
    first ≠ second := by
  rintro rfl
  exact hsecond hfirst

variable [DecidablePred stays]

section Renumber

/-- Different clients that stay have different numbers. -/
theorem renumber_inj {first second : Nat} (hfirst : stays first) (hsecond : stays second) :
    renumber stays first = renumber stays second ↔ first = second :=
  ⟨Nat.count_injective hfirst hsecond, congrArg _⟩

theorem renumber_ne {first second : Nat} (hfirst : stays first) (hsecond : stays second)
    (hne : first ≠ second) : renumber stays first ≠ renumber stays second :=
  fun hsame => hne ((renumber_inj hfirst hsecond).mp hsame)

/-- After a client that stays comes the next number. -/
theorem renumber_succ_of_stays {id : Nat} (h : stays id) :
    renumber stays (id + 1) = renumber stays id + 1 :=
  Nat.count_succ_eq_succ_count h

/-- A client that leaves takes no number. -/
theorem renumber_succ_of_leaves {id : Nat} (h : ¬ stays id) :
    renumber stays (id + 1) = renumber stays id :=
  Nat.count_succ_eq_count h

end Renumber

section Table

variable {id : Nat} {session : Session} {rest : List (Nat × Session)}

theorem restrictTable_cons_of_stays (h : stays id) :
    restrictTable stays ((id, session) :: rest) =
      (renumber stays id, session.numbered (renumber stays id)) :: restrictTable stays rest := by
  unfold restrictTable
  rw [List.filter_cons_of_pos (by simpa using h)]
  rfl

theorem restrictTable_cons_of_leaves (h : ¬ stays id) :
    restrictTable stays ((id, session) :: rest) = restrictTable stays rest := by
  unfold restrictTable
  rw [List.filter_cons_of_neg (by simpa using h)]

theorem restrictTable_append (first second : List (Nat × Session)) :
    restrictTable stays (first ++ second) =
      restrictTable stays first ++ restrictTable stays second := by
  simp [restrictTable]

/-- A client that stays is found under its new number. -/
theorem lookup_restrictTable (table : List (Nat × Session)) (h : stays id) :
    (restrictTable stays table).lookup (renumber stays id) =
      (table.lookup id).map (Session.numbered (renumber stays id)) := by
  induction table with
  | nil => rfl
  | cons entry rest ih =>
    obtain ⟨key, session⟩ := entry
    by_cases hkey : stays key
    · rw [restrictTable_cons_of_stays hkey, List.lookup_cons, List.lookup_cons, ih]
      -- The entry is the one that is asked for in both tables or in none.
      by_cases heq : id = key
      · subst heq
        simp
      · rw [beq_false_of_ne heq, beq_false_of_ne (renumber_ne h hkey heq)]
    · rw [restrictTable_cons_of_leaves hkey, ih, List.lookup_cons,
        beq_false_of_ne (ne_of_leaves h hkey)]

/-- A new state of a client that stays is its new state among those that stay. -/
theorem restrictTable_update (table : List (Nat × Session)) (h : stays id) (session : Session) :
    restrictTable stays (table.map fun (key, old) => (key, if key = id then session else old)) =
      (restrictTable stays table).map fun (key, old) =>
        (key, if key = renumber stays id then session.numbered (renumber stays id) else old) := by
  induction table with
  | nil => rfl
  | cons entry rest ih =>
    obtain ⟨key, old⟩ := entry
    by_cases hkey : stays key
    · -- The new numbers are different where the old ones are, so the same entry is changed.
      rw [List.map_cons, restrictTable_cons_of_stays hkey, restrictTable_cons_of_stays hkey, ih,
        List.map_cons]
      by_cases heq : key = id
      · simp [heq]
      · simp [heq, renumber_ne hkey h heq]
    · rw [List.map_cons, restrictTable_cons_of_leaves hkey, restrictTable_cons_of_leaves hkey, ih]

/-- To remove a client that stays is to remove it from those that stay. -/
theorem restrictTable_remove (table : List (Nat × Session)) (h : stays id) :
    restrictTable stays (table.filter fun (key, _) => key != id) =
      (restrictTable stays table).filter fun (key, _) => key != renumber stays id := by
  induction table with
  | nil => rfl
  | cons entry rest ih =>
    obtain ⟨key, session⟩ := entry
    by_cases hkey : stays key
    · rw [restrictTable_cons_of_stays hkey]
      by_cases heq : key = id
      · subst heq
        rw [List.filter_cons_of_neg (by simp), List.filter_cons_of_neg (by simp), ih]
      · have hnew := renumber_ne hkey h heq
        rw [List.filter_cons_of_pos (by simpa using heq),
          List.filter_cons_of_pos (by simpa using hnew), restrictTable_cons_of_stays hkey, ih]
    · have hne := (ne_of_leaves h hkey).symm
      rw [List.filter_cons_of_pos (by simpa using hne), restrictTable_cons_of_leaves hkey,
        restrictTable_cons_of_leaves hkey, ih]

/-- A new state of a client that leaves is not seen. -/
theorem restrictTable_update_of_leaves (table : List (Nat × Session)) (h : ¬ stays id)
    (session : Session) :
    restrictTable stays (table.map fun (key, old) => (key, if key = id then session else old)) =
      restrictTable stays table := by
  unfold restrictTable
  rw [List.filter_map, List.map_map]
  apply List.map_congr_left
  intro entry hentry
  have hkey : stays entry.1 := by simpa using (List.mem_filter.mp hentry).2
  simp [ne_of_leaves hkey h]

/-- That a client that leaves is gone is not seen. -/
theorem restrictTable_remove_of_leaves (table : List (Nat × Session)) (h : ¬ stays id) :
    restrictTable stays (table.filter fun (key, _) => key != id) = restrictTable stays table := by
  unfold restrictTable
  rw [List.filter_filter]
  refine congrArg (List.map _) (List.filter_congr ?_)
  intro entry _
  by_cases hkey : stays entry.1
  · simp [hkey, ne_of_leaves hkey h]
  · simp [hkey]

end Table

section Handle

variable (server : Server)

/-- A new state of a client is given to it if it stays. -/
theorem restrict_update (id : Nat) (session : Session) :
    (server.update id session).restrict stays =
      if stays id then
        (server.restrict stays).update (renumber stays id) (session.numbered (renumber stays id))
      else server.restrict stays := by
  unfold restrict update
  by_cases h : stays id
  · rw [if_pos h, restrictTable_update _ h]
  · rw [if_neg h, restrictTable_update_of_leaves _ h]

/-- A client is removed from those that stay if it is one of them. -/
theorem restrict_remove (id : Nat) :
    (server.remove id).restrict stays =
      if stays id then (server.restrict stays).remove (renumber stays id)
      else server.restrict stays := by
  unfold restrict remove
  by_cases h : stays id
  · rw [if_pos h, restrictTable_remove _ h]
  · rw [if_neg h, restrictTable_remove_of_leaves _ h]

/-- An ending is that of a client that stays, or it is left out. -/
theorem restrictEndings_singleton (ending : Ending) :
    restrictEndings stays [ending] =
      if stays ending.id then
        [{ ending with
            id := renumber stays ending.id
            session := ending.session.numbered (renumber stays ending.id) }]
      else [] := by
  by_cases h : stays ending.id <;> simp [restrictEndings, h]

theorem restrictEndings_append (first second : List Ending) :
    restrictEndings stays (first ++ second) =
      restrictEndings stays first ++ restrictEndings stays second := by
  simp [restrictEndings]

/-- An event of a client that stays is one for those that stay. -/
theorem handle_restrict {event : Session → Flow × Session} (hevent : Session.IgnoresNumber event)
    {id : Nat} (h : stays id) :
    (server.restrict stays).handle event (renumber stays id) =
      restrictOutcome stays (server.handle event id) := by
  -- The session that is found is the same, under its new number.
  have hlookup : (server.restrict stays).sessions.lookup (renumber stays id) = _ :=
    lookup_restrictTable server.sessions h
  unfold handle
  rw [hlookup]
  cases server.sessions.lookup id with
  | none => rfl
  | some session =>
    rw [Option.map_some]
    dsimp only
    rw [hevent]
    obtain ⟨flow, next⟩ := event session
    cases flow with
    | keep =>
      show ([], _) = restrictOutcome stays ([], server.update id next)
      rw [restrictOutcome, restrict_update, if_pos h]
      rfl
    | close reason =>
      show ([_], _) = restrictOutcome stays ([{ id, reason, session := next }], server.remove id)
      rw [restrictOutcome, restrict_remove, restrictEndings_singleton, if_pos h, if_pos h]

/-- An event of a client that leaves is not seen by those that stay. -/
theorem restrictOutcome_handle (event : Session → Flow × Session) {id : Nat} (h : ¬ stays id) :
    restrictOutcome stays (server.handle event id) = ([], server.restrict stays) := by
  unfold handle
  cases server.sessions.lookup id with
  | none => rfl
  | some session =>
    dsimp only
    obtain ⟨flow, next⟩ := event session
    cases flow with
    | keep =>
      show restrictOutcome stays ([], server.update id next) = _
      rw [restrictOutcome, restrict_update, if_neg h]
      rfl
    | close reason =>
      show restrictOutcome stays ([{ id, reason, session := next }], server.remove id) = _
      rw [restrictOutcome, restrict_remove, restrictEndings_singleton, if_neg h, if_neg h]

/-- A list of events is that of the first client, and then the others. -/
theorem handleAll_cons (event : Session → Flow × Session) (id : Nat) (rest : List Nat) :
    server.handleAll event (id :: rest) =
      ((server.handle event id).1 ++ ((server.handle event id).2.handleAll event rest).1,
        ((server.handle event id).2.handleAll event rest).2) := rfl

/-- Events of several clients are events of those that stay. -/
theorem handleAll_restrict {event : Session → Flow × Session}
    (hevent : Session.IgnoresNumber event) (ids : List Nat) :
    (server.restrict stays).handleAll event (restrictIds stays ids) =
      restrictOutcome stays (server.handleAll event ids) := by
  -- Induction on the clients, from every server that those before may have left.
  induction ids generalizing server with
  | nil => rfl
  | cons id rest ih =>
    rw [handleAll_cons]
    by_cases h : stays id
    · have hids : restrictIds stays (id :: rest) = renumber stays id :: restrictIds stays rest := by
        simp [restrictIds, h]
      rw [hids, handleAll_cons, handle_restrict server hevent h]
      dsimp only [restrictOutcome]
      rw [ih, restrictEndings_append]
      rfl
    · -- The client and its event are left out.
      have hids : restrictIds stays (id :: rest) = restrictIds stays rest := by
        simp [restrictIds, h]
      obtain ⟨hendings, hserver⟩ := Prod.ext_iff.mp (server.restrictOutcome_handle event h)
      dsimp only [restrictOutcome] at hendings hserver
      rw [hids, ← hserver, ih, restrictOutcome, restrictOutcome, restrictEndings_append, hendings,
        List.nil_append]

end Handle

section Tick

variable (server : Server)

/-- A client is admitted among those that stay if it stays. -/
theorem restrict_welcome (now : Nat) (connection : Connection) :
    (server.welcome now connection).restrict stays =
      if stays server.nextId then (server.restrict stays).welcome now connection
      else server.restrict stays := by
  unfold welcome restrict
  by_cases h : stays server.nextId
  · rw [if_pos h, restrictTable_append, restrictTable_cons_of_stays h, renumber_succ_of_stays h]
    rfl
  · rw [if_neg h, restrictTable_append, restrictTable_cons_of_leaves h, renumber_succ_of_leaves h]
    simp [restrictTable]

/-- To welcome clients and leave some out is to welcome those that stay. -/
theorem restrict_foldl_welcome (now : Nat) (connections : List Connection) :
    (connections.foldl (fun server connection => server.welcome now connection) server).restrict
        stays =
      (restrictConnections stays server.nextId connections).foldl
        (fun server connection => server.welcome now connection) (server.restrict stays) := by
  induction connections generalizing server with
  | nil => rfl
  | cons connection rest ih =>
    rw [List.foldl_cons, ih, restrict_welcome]
    simp only [restrictConnections]
    by_cases h : stays server.nextId
    · rw [if_pos h, if_pos h]
      rfl
    · rw [if_neg h, if_neg h]
      rfl

/-- To admit clients and leave some out is to admit those that stay. The numbers do not matter to
a server that listens no more. -/
theorem restrict_welcomeAll (now : Nat) (connections : List Connection) {next : Nat}
    (hnext : server.listeners ≠ [] → server.nextId = next) :
    (server.welcomeAll now connections).restrict stays =
      (server.restrict stays).welcomeAll now (restrictConnections stays next connections) := by
  unfold welcomeAll
  have hlisteners : (server.restrict stays).listeners = server.listeners := rfl
  rw [hlisteners]
  by_cases hdeaf : server.listeners.isEmpty
  · rw [if_pos hdeaf, if_pos hdeaf]
  · rw [if_neg hdeaf, if_neg hdeaf, ← hnext (by simpa using hdeaf)]
    exact server.restrict_foldl_welcome now connections

/-- A sweep parts the sessions that were idle for too long from the others. -/
theorem sweep_eq (now : Nat) :
    server.sweep now =
      ((server.sessions.filter fun entry =>
          entry.2.isIdle now (server.config.keepAliveTimeout * clockRate)).map fun entry =>
            { id := entry.1, reason := .timedOut, session := entry.2 },
        { server with
          sessions := server.sessions.filter fun entry =>
            !entry.2.isIdle now (server.config.keepAliveTimeout * clockRate) }) := by
  unfold sweep
  simp only [List.partition_eq_filter_filter]
  rfl

/-- A property that does not depend on the number picks the same clients from those that stay. -/
theorem filter_restrictTable (table : List (Nat × Session)) {p : Session → Bool}
    (hp : ∀ session number, p (session.numbered number) = p session) :
    (restrictTable stays table).filter (fun entry => p entry.2) =
      restrictTable stays (table.filter fun entry => p entry.2) := by
  unfold restrictTable
  rw [List.filter_map, List.filter_filter, List.filter_filter]
  refine congrArg (List.map _) (List.filter_congr ?_)
  intro entry _
  simp [hp, Bool.and_comm]

/-- Sessions that end for one reason end for it among those that stay. -/
theorem restrictEndings_map (table : List (Nat × Session)) (reason : CloseReason) :
    restrictEndings stays (table.map fun entry => { id := entry.1, reason, session := entry.2 }) =
      (restrictTable stays table).map fun entry =>
        { id := entry.1, reason, session := entry.2 } := by
  unfold restrictEndings restrictTable
  rw [List.filter_map, List.map_map, List.map_map]
  rfl

/-- Who was idle for too long is the same with the others and without them. -/
theorem sweep_restrict (now : Nat) :
    (server.restrict stays).sweep now = restrictOutcome stays (server.sweep now) := by
  let idle (session : Session) : Bool :=
    session.isIdle now (server.config.keepAliveTimeout * clockRate)
  rw [sweep_eq, sweep_eq, restrictOutcome, restrictEndings_map]
  unfold restrict
  -- Neither who was idle nor who was busy depends on the numbers.
  have hidle : (restrictTable stays server.sessions).filter (fun entry => idle entry.2) = _ :=
    filter_restrictTable server.sessions fun _ _ => rfl
  have hbusy : (restrictTable stays server.sessions).filter (fun entry => !idle entry.2) = _ :=
    filter_restrictTable (p := fun session => !idle session) server.sessions fun _ _ => rfl
  rw [← hidle, ← hbusy]

/-- To attend to clients and leave some out is to attend to those that stay. -/
theorem attend_restrict {receive send : Session → Flow × Session}
    {sweep : Server → List Ending × Server} (hreceive : Session.IgnoresNumber receive)
    (hsend : Session.IgnoresNumber send)
    (hsweep : ∀ server, sweep (restrict stays server) = restrictOutcome stays (sweep server))
    (ready : Readiness) (next : Nat) :
    (server.restrict stays).attend receive send sweep (restrictReadiness stays next ready) =
      restrictOutcome stays (server.attend receive send sweep ready) := by
  unfold attend restrictReadiness
  -- One part after the other, each on what the one before has left.
  dsimp only
  rw [handleAll_restrict server hreceive]
  dsimp only [restrictOutcome]
  rw [handleAll_restrict _ hsend]
  dsimp only [restrictOutcome]
  rw [hsweep, restrictOutcome, restrictEndings_append, restrictEndings_append]

/-- A tick of a server is one for those that stay, with what of it is theirs. -/
theorem tick_restrict (now later : Nat) (files : FileSystem) (ready : Readiness) {next : Nat}
    (hnext : server.listeners ≠ [] → server.nextId = next) :
    (server.restrict stays).tick now later files (restrictReadiness stays next ready) =
      restrictOutcome stays (server.tick now later files ready) := by
  have hwelcome : (server.restrict stays).welcomeAll now
      (restrictReadiness stays next ready).accepted = _ :=
    (server.restrict_welcomeAll now ready.accepted hnext).symm
  rw [tick_eq, tick_eq, hwelcome]
  exact attend_restrict (server.welcomeAll now ready.accepted)
    (fun session number => session.receive_numbered number now files _ _)
    (fun session number => session.send_numbered number now files _)
    (fun server => server.sweep_restrict later) ready next

/-- A shutdown ends the sessions of those that stay. -/
theorem shutdown_restrict :
    (server.restrict stays).shutdown = restrictOutcome stays server.shutdown := by
  unfold shutdown
  rw [restrictOutcome]
  exact Prod.ext (restrictEndings_map server.sessions .shutdown).symm rfl

end Tick

end Server

namespace Service

section Definitions

variable (stays : Nat → Prop) [DecidablePred stays]

/-- What of an event is for the clients that stay, when `next` is the number of the first client to
be admitted. -/
def Event.restrict? (next : Nat) : Event → Option Event
  | capture => some .capture
  | push offered => some (.push offered)
  | network id future =>
    if stays id then some (.network (Server.renumber stays id) future) else none
  | tick now later files ready =>
    some (.tick now later files (Server.restrictReadiness stays next ready))
  | shutdown => some .shutdown

/-- What of some events is for the clients that stay. -/
def Event.restrictAll (next : Nat) : List Event → List Event
  | [] => []
  | event :: rest =>
    (event.restrict? stays next).toList ++
      restrictAll (next + event.connections.length) rest

/-- The service without the clients that leave. -/
def restrict (service : Service) : Service where
  server := service.server.restrict stays
  endings := Server.restrictEndings stays service.endings

end Definitions

variable {stays : Nat → Prop} [DecidablePred stays] (service : Service)

/-- The endings of those that stay are added to the ones that they had. -/
theorem restrict_goOn (outcome : List Ending × Server) :
    (service.goOn outcome).restrict stays =
      (service.restrict stays).goOn (Server.restrictOutcome stays outcome) := by
  unfold goOn restrict
  rw [Server.restrictEndings_append]
  rfl

/-- An event is, for the clients that stay, what of it is theirs. -/
theorem run_restrict? (event : Event) {next : Nat}
    (hnext : service.server.listeners ≠ [] → service.server.nextId = next) :
    (service.restrict stays).run (event.restrict? stays next).toList =
      (service.step event).restrict stays := by
  cases event with
  | capture | push => rfl
  | network id future =>
    have hreroute : Session.IgnoresNumber fun session => (.keep, session.reroute future) :=
      fun _ _ => rfl
    rw [Event.restrict?, step]
    by_cases h : stays id
    · rw [if_pos h, restrict_goOn, ← Server.handle_restrict _ hreroute h]
      rfl
    · rw [if_neg h, restrict_goOn, Server.restrictOutcome_handle _ _ h]
      unfold goOn
      rw [List.append_nil]
      rfl
  | tick now later files ready =>
    rw [step, restrict_goOn, ← service.server.tick_restrict now later files ready hnext]
    rfl
  | shutdown =>
    rw [step, restrict_goOn, ← service.server.shutdown_restrict]
    rfl

/-- A run without the other clients leads to what the whole run leads to, less the other clients. -/
theorem run_restrictAll (events : List Event) {next : Nat}
    (hnext : service.server.listeners ≠ [] → service.server.nextId = next) :
    (service.restrict stays).run (Event.restrictAll stays next events) =
      (service.run events).restrict stays := by
  -- Induction from the front, with the number that the first client of the rest will have.
  induction events generalizing service next with
  | nil => rfl
  | cons event rest ih =>
    unfold Event.restrictAll
    rw [run_append, run_restrict? service event hnext]
    refine ih (service.step event) fun hlistens => ?_
    -- As long as the server listens every client that came has a number.
    obtain ⟨hbefore, hstep⟩ := service.nextId_step event hlistens
    rw [hstep, hnext hbefore]

end Service

end MotionJpeg
