import MotionJpeg.Proofs.Frame.Cursor
import MotionJpeg.Proofs.Session.Exchange
import MotionJpeg.Proofs.Session.Reading
import MotionJpeg.Proofs.Session.Steps

/-!
# The life cycle of a session

A session goes from reading a request to an answer, and from there to its end, to the next request
or to a stream without end. In every phase it has what the phase needs, so the ways out for a
session that has not are never taken.

* `Session.Sound` is what a session has in each phase.
* `Phase.Next` lists the changes of phase, `Phase.mayEnd` the reasons for which a session ends.
* `Session.Turn` says what can come of one event; `Session.Sound.receive` and `Session.Sound.send`
  show that nothing else does.
* `Exchange.life_cycle` is what holds along every run.
-/

namespace MotionJpeg

/-- The changes of phase. -/
inductive Phase.Next : Phase → Phase → Prop where
  | stay (phase : Phase) : Next phase phase
  /-- A request was read. -/
  | answer (kind : RouteKind) : Next .awaitingHeaders (.draining kind)
  /-- A file was sent to its end. -/
  | await : Next (.draining .staticFile) .awaitingHeaders
  /-- The head of a stream was sent. -/
  | stream : Next (.draining .stream) .streaming
  | close (phase : Phase) : Next phase .closed

/-- A stream goes on or is over. -/
theorem Phase.Next.of_streaming {next : Phase} (h : Phase.Next .streaming next) :
    next = .streaming ∨ next = .closed := by
  cases h with
  | stay => exact Or.inl rfl
  | close => exact Or.inr rfl

/-- A session comes to wait for a request only at the end of a file. -/
theorem Phase.Next.of_awaitingHeaders {phase : Phase} (h : phase.Next .awaitingHeaders) :
    phase = .awaitingHeaders ∨ phase = .draining .staticFile := by
  cases h with
  | stay => exact Or.inl rfl
  | await => exact Or.inr rfl

/-- The session may end in this phase for this reason. -/
def Phase.mayEnd : Phase → CloseReason → Bool
  | _, .transportFailed => true
  | .draining .still, .frameUnavailable => true
  | .draining kind, .responseComplete => kind.isCanned || kind == .still
  | _, _ => false

/-- That the peer has hung up does not end a session, but leaves it to the server. -/
theorem Phase.mayEnd_peerClosed (phase : Phase) : phase.mayEnd .peerClosed = false := by
  cases phase with
  | draining kind => cases kind <;> rfl
  | awaitingHeaders | streaming | closed => rfl

/-- A flush uses up the next failure of a flush, if there is one. -/
theorem Transport.flush_eq (transport : Transport) : transport.flush.2 =
    { transport with flushErrors := transport.flushErrors.tail } := by
  obtain ⟨arrivals, hasEnded, outcomes, usualOutcome, flushErrors, pieces⟩ := transport
  cases flushErrors <;> rfl

namespace Session

/-- The session has what its phase needs: a place in a store that is there, or an open file. It has
sent no more of a head than there is. -/
structure Sound (session : Session) (sources : Registry) : Prop where
  exists_cursor : session.phase ∈ [.draining .stream, .draining .still, .streaming] →
    ∃ cursor, session.cursor = some cursor ∧ cursor.source < sources.size
  exists_file : session.phase = .draining .staticFile → ∃ file, session.file = some file
  responseSent_le : session.responseSent ≤ session.response.length

/-- What can come of one event of a session in this phase, when `hungUp` says that the event shows
that the peer has hung up. -/
inductive Turn (phase : Phase) (sources : Registry) (hungUp : Prop) : Flow × Session → Prop where
  /-- The session goes on. -/
  | goesOn {session : Session} (hstands : ¬ hungUp) (hsound : session.Sound sources)
      (hnext : phase.Next session.phase) (hopen : session.phase ≠ .closed) :
      Turn phase sources hungUp (.keep, session)
  /-- The session is over. -/
  | ends {session : Session} {reason : CloseReason} (hstands : ¬ hungUp)
      (hsound : session.Sound sources) (hclosed : session.phase = .closed)
      (hreason : phase.mayEnd reason = true) : Turn phase sources hungUp (.close reason, session)
  /-- The session stays as it is, and the server is told. -/
  | hangsUp {session : Session} (hhungUp : hungUp) (hsound : session.Sound sources)
      (hstays : session.phase = phase) : Turn phase sources hungUp (.close .peerClosed, session)

section Turn

variable {phase : Phase} {sources : Registry} {hungUp : Prop} {result : Flow × Session}

/-- Whatever an event brings, the session has what it needs then. -/
theorem Turn.sound (h : Turn phase sources hungUp result) : result.2.Sound sources := by
  cases h with
  | goesOn _ hsound => exact hsound
  | ends _ hsound => exact hsound
  | hangsUp _ hsound => exact hsound

/-- The phase changes in one of the ways that there are. -/
theorem Turn.next (h : Turn phase sources hungUp result) : phase.Next result.2.phase := by
  cases h with
  | goesOn _ _ hnext => exact hnext
  | ends _ _ hclosed => exact hclosed ▸ .close phase
  | hangsUp _ _ hstays => exact hstays ▸ .stay phase

/-- The peer is known to have hung up if that is seen, and else it is not. -/
theorem Turn.peerClosed_iff (h : Turn phase sources hungUp result) :
    result.1 = .close .peerClosed ↔ hungUp := by
  cases h with
  | goesOn hstands => simp [hstands]
  | ends hstands _ _ hreason =>
    simp only [hstands, iff_false]
    intro heq
    rw [Flow.close.inj heq, phase.mayEnd_peerClosed] at hreason
    cases hreason
  | hangsUp hhungUp => simp [hhungUp]

/-- An event that closes a session for another reason has ended it, and no other event has. -/
theorem Turn.closes_iff (h : Turn phase sources hungUp result) (hopen : phase ≠ .closed) :
    (∃ reason, result.1 = .close reason ∧ reason ≠ .peerClosed) ↔ result.2.phase = .closed := by
  cases h with
  | goesOn _ _ _ hgoing => simp [hgoing]
  | @ends session reason _ _ hclosed hreason =>
    refine iff_of_true ⟨reason, rfl, ?_⟩ hclosed
    rintro rfl
    rw [phase.mayEnd_peerClosed] at hreason
    cases hreason
  | hangsUp _ _ hstays => simp [hstays, hopen]

/-- Nothing but a failure ends a stream. -/
theorem Turn.of_stream (h : Turn phase sources hungUp result)
    (hphase : phase = .draining .stream ∨ phase = .streaming) (hstands : ¬ hungUp) :
    result.1 = .keep ∨ result.1 = .close .transportFailed := by
  cases h with
  | goesOn => exact Or.inl rfl
  | @ends session reason _ _ _ hreason =>
    refine Or.inr (congrArg Flow.close ?_)
    rcases hphase with rfl | rfl
    all_goals cases reason <;> first | rfl | cases hreason
  | hangsUp hhungUp => exact absurd hhungUp hstands

/-- No more is said of a session that streams than of one that begins to. -/
theorem Turn.of_streaming (h : Turn .streaming sources False result) :
    Turn (.draining .stream) sources False result := by
  cases h with
  | goesOn hstands hsound hnext hopen =>
    refine .goesOn hstands hsound ?_ hopen
    rcases hnext.of_streaming with hphase | hphase
    · rw [hphase]
      exact .stream
    · exact absurd hphase hopen
  | @ends session reason hstands hsound hclosed hreason =>
    refine .ends hstands hsound hclosed ?_
    cases reason <;> first | rfl | cases hreason
  | hangsUp hhungUp => exact hhungUp.elim

end Turn

/-- The next attempt to read shows that the peer has hung up: a request is being read, and a read
brings nothing. -/
def SeesHangUp (session : Session) : Prop :=
  session.phase = .awaitingHeaders ∧ (session.transport.read session.readSize).1 = .ok []

/-- A session that gives an answer, or is over, does not read. -/
theorem receive_of_ne {session : Session} (hphase : session.phase ≠ .awaitingHeaders) (now : Nat)
    (router : Router) (files : FileSystem) (sources : Registry) :
    session.receive now router files sources = (.keep, session) := by
  have hwants : session.wantsRead = false := by
    rw [wantsRead]
    cases hphase' : session.phase with
    | awaitingHeaders => exact absurd hphase' hphase
    | draining | streaming | closed => rfl
  rw [receive, hwants]
  rfl

/-- A session that reads a request fails, waits, is told that there will be no request, or looks at
what it has got. -/
theorem receive_of_awaitingHeaders {session : Session} (hphase : session.phase = .awaitingHeaders)
    (now : Nat) (router : Router) (files : FileSystem) (sources : Registry) :
    session.receive now router files sources =
      match session.transport.read session.readSize with
      | (.error error, transport) =>
        if error.isTransient then (.keep, { session with transport })
        else { session with transport }.fail
      | (.ok bytes, transport) =>
        if bytes.isEmpty then (.close .peerClosed, { session with transport })
        else (.keep, (session.afterRead now transport bytes).gather router files sources bytes) := by
  rw [receive, wantsRead_of_awaitingHeaders hphase]
  cases session.transport.read session.readSize with
  | mk result transport => cases result <;> rfl

/-- An attempt to read sends nothing. -/
theorem sent_receive (session : Session) (now : Nat) (router : Router) (files : FileSystem)
    (sources : Registry) :
    (session.receive now router files sources).2.transport.sent = session.transport.sent := by
  by_cases hphase : session.phase = .awaitingHeaders
  · have hsent := session.transport.sent_read session.readSize
    rw [receive_of_awaitingHeaders hphase]
    cases hread : session.transport.read session.readSize with
    | mk result transport =>
      rw [hread] at hsent
      cases result with
      | error error =>
        dsimp only
        split
        · exact hsent
        · exact hsent
      | ok bytes =>
        dsimp only
        split
        · exact hsent
        · rw [transport_gather]
          exact hsent
  · rw [receive_of_ne hphase]

/-- A session that is over is flushed, and nothing else happens to it. -/
theorem send_of_isOver {session : Session} (hphase : session.phase = .closed) (now : Nat)
    (files : FileSystem) (sources : Registry) : (session.send now files sources).2 =
      { session with
        transport := { session.transport with
          flushErrors := session.transport.flushErrors.tail } } := by
  rw [← session.transport.flush_eq]
  by_cases hfails : Transport.FailsHard session.transport.flush.1
  · rw [session.send_eq_fail now files sources hfails, fail, ← hphase]
  · rw [session.send_eq_sendPhase now files sources hfails, sendPhase_of_closed]
    exact hphase

namespace Sound

section Ends

variable {session : Session} {sources : Registry} {phase : Phase} {hungUp : Prop}

/-- A session that is over or waits for a request needs nothing. -/
theorem of_idle (hidle : session.phase = .awaitingHeaders ∨ session.phase = .closed)
    (hsent : session.responseSent ≤ session.response.length) : session.Sound sources where
  exists_cursor := by rcases hidle with hphase | hphase <;> simp [hphase]
  exists_file := by rcases hidle with hphase | hphase <;> simp [hphase]
  responseSent_le := hsent

/-- A session needs nothing of its connection. -/
theorem onTransport (h : session.Sound sources) (transport : Transport) :
    Sound { session with transport } sources :=
  ⟨h.exists_cursor, h.exists_file, h.responseSent_le⟩

/-- What a session needs of its stores is that they are there. -/
theorem congr (h : session.Sound sources) {others : Registry} (hsize : others.size = sources.size) :
    session.Sound others :=
  ⟨hsize ▸ h.exists_cursor, h.exists_file, h.responseSent_le⟩

/-- A session goes on in its phase. -/
theorem stays (h : session.Sound sources) (hphase : session.phase = phase)
    (hopen : phase ≠ .closed) (hstands : ¬ hungUp) : Turn phase sources hungUp (.keep, session) :=
  .goesOn hstands h (hphase ▸ .stay phase) (hphase ▸ hopen)

/-- A failure ends a session in every phase. -/
theorem fail (h : session.Sound sources) (phase : Phase) (hstands : ¬ hungUp) :
    Turn phase sources hungUp session.fail := by
  refine .ends hstands (.of_idle (Or.inr rfl) h.responseSent_le) rfl ?_
  cases phase <;> rfl

/-- An answer ends a session if nothing comes after it. -/
theorem finish (h : session.Sound sources) (hphase : phase.mayEnd .responseComplete = true)
    (hstands : ¬ hungUp) : Turn phase sources hungUp session.finish :=
  .ends hstands (.of_idle (Or.inr rfl) h.responseSent_le) rfl hphase

/-- The store of a session that needs one. -/
theorem exists_store (h : session.Sound sources)
    (hphase : session.phase ∈ [.draining .stream, .draining .still, .streaming]) :
    ∃ cursor store, session.cursor = some cursor ∧ sources.get? cursor.source = some store ∧
      cursor.source < sources.size := by
  obtain ⟨cursor, hcursor, hsource⟩ := h.exists_cursor hphase
  exact ⟨cursor, _, hcursor, List.getElem?_eq_getElem hsource, hsource⟩

/-- A session with a place in a store that is there has all that it needs, unless it sends a
file. -/
theorem of_cursor {place : Cursor} (hcursor : session.cursor = some place)
    (hplace : place.source < sources.size) (hfile : session.phase ≠ .draining .staticFile)
    (hsent : session.responseSent ≤ session.response.length) : session.Sound sources where
  exists_cursor := fun _ => ⟨place, hcursor, hplace⟩
  exists_file := fun hphase => absurd hphase hfile
  responseSent_le := hsent

end Ends

section Send

variable {session : Session} {sources : Registry} (now : Nat) (files : FileSystem)

/-- A stream goes on as long as its connection stands. -/
theorem sendFrames (h : session.Sound sources) (hphase : session.phase = .streaming) :
    Turn .streaming sources False (session.sendFrames now sources) := by
  obtain ⟨cursor, store, hcursor, hstore, hsource⟩ := h.exists_store (by simp [hphase])
  have hfile : session.phase ≠ .draining .staticFile := by simp [hphase]
  rcases session.sendFrames_cases now sources hcursor hstore with
    ⟨-, hresult⟩ | ⟨bytes, -, ⟨transport, -, hresult⟩ | ⟨count, transport, -, -, hresult⟩⟩
  · rw [hresult]
    refine stays ?_ hphase Phase.noConfusion not_false
    exact of_cursor rfl (by simpa using hsource) hfile h.responseSent_le
  · rw [hresult]
    exact (h.onTransport transport).fail _ not_false
  · rw [hresult]
    refine stays ?_ hphase Phase.noConfusion not_false
    exact of_cursor rfl (by simpa using hsource) hfile h.responseSent_le

/-- A still ends with its frame, or when this is gone. -/
theorem sendStill (h : session.Sound sources) (hphase : session.phase = .draining .still) :
    Turn (.draining .still) sources False (session.sendStill now sources) := by
  obtain ⟨cursor, store, hcursor, hstore, hsource⟩ := h.exists_store (by simp [hphase])
  have hfile : session.phase ≠ .draining .staticFile := by simp [hphase]
  rcases session.sendStill_cases now sources hcursor hstore with
    ⟨-, hresult⟩ | ⟨bytes, -, ⟨-, hresult⟩ | ⟨-, ⟨-, transport, -, hresult⟩ |
      ⟨-, count, transport, -, -, hresult⟩⟩⟩
  · rw [hresult]
    exact .ends not_false (.of_idle (Or.inr rfl) h.responseSent_le) rfl rfl
  · rw [hresult]
    exact h.finish rfl not_false
  · rw [hresult]
    exact (h.onTransport transport).fail _ not_false
  · -- The last bytes of the image end the session, and all others leave it as it was.
    rw [hresult]
    split
    · refine stays ?_ hphase Phase.noConfusion not_false
      exact of_cursor rfl (by exact hsource) hfile h.responseSent_le
    · refine finish ?_ rfl not_false
      exact of_cursor rfl (by exact hsource) hfile h.responseSent_le

/-- A file is followed by another request. -/
theorem sendFile (h : session.Sound sources) (hphase : session.phase = .draining .staticFile) :
    Turn (.draining .staticFile) sources False (session.sendFile now files) := by
  obtain ⟨file, hfile⟩ := h.exists_file hphase
  -- A file needs no place in a store, so the cursor does not matter.
  have hcursor : session.phase ∉ [.draining .stream, .draining .still, .streaming] := by
    simp [hphase]
  cases hread : files.readSome session.chunkSize file with
  | error fault =>
    rw [Session.sendFile, hfile]
    simp only [hread]
    exact h.fail _ not_false
  | ok bytes =>
    rcases session.sendFile_cases now files hfile hread with
      ⟨-, hresult⟩ | ⟨-, ⟨-, transport, -, hresult⟩ | ⟨-, count, transport, -, -, hresult⟩⟩
    · rw [hresult]
      exact .goesOn not_false (.of_idle (Or.inl rfl) (Nat.zero_le _)) .await Phase.noConfusion
    · rw [hresult]
      exact (h.onTransport transport).fail _ not_false
    · rw [hresult]
      refine stays ?_ hphase Phase.noConfusion not_false
      exact ⟨fun hneeds => absurd hneeds hcursor, fun _ => ⟨_, rfl⟩, h.responseSent_le⟩

/-- What follows a head is that of the kind of answer. -/
theorem sendBody (h : session.Sound sources) {kind : RouteKind}
    (hphase : session.phase = .draining kind) :
    Turn (.draining kind) sources False (session.sendBody now files sources kind) := by
  cases kind with
  | badRequest | authRequired | notFound | streamInfo => exact h.finish rfl not_false
  | still => exact h.sendStill now hphase
  | staticFile => exact h.sendFile now files hphase
  | stream =>
    -- The phase changes first, and keeps the cursor that the head was sent with.
    have hstreams : Sound { session with phase := .streaming } sources := by
      refine ⟨fun _ => h.exists_cursor (by simp [hphase]), ?_, h.responseSent_le⟩
      exact fun hfile => Phase.noConfusion hfile
    exact (hstreams.sendFrames now rfl).of_streaming

/-- An answer is sent from the front of its head to the end of its body. -/
theorem sendAnswer (h : session.Sound sources) {kind : RouteKind}
    (hphase : session.phase = .draining kind) :
    Turn (.draining kind) sources False (session.sendAnswer now files sources kind) := by
  by_cases hleft : session.responseSent < session.response.length
  · -- The bound on what the connection took keeps the place in the head within the head.
    rcases session.sendAnswer_cases now files sources kind hleft with
      ⟨-, transport, -, hresult⟩ | ⟨-, count, transport, hcount, -, -, hresult⟩
    · rw [hresult]
      exact (h.onTransport transport).fail _ not_false
    · have hhead : (session.afterHead now transport count).Sound sources := ⟨h.1, h.2, hcount⟩
      rw [hresult]
      split
      · exact hhead.stays hphase Phase.noConfusion not_false
      · exact hhead.sendBody now files hphase
  · rw [Session.sendAnswer, if_neg hleft]
    exact h.sendBody now files hphase

/-- Each phase is sent what it calls for. -/
theorem sendPhase (h : session.Sound sources) (hopen : session.phase ≠ .closed) :
    Turn session.phase sources False (session.sendPhase now files sources) := by
  cases hphase : session.phase with
  | awaitingHeaders =>
    rw [session.sendPhase_of_awaitingHeaders now files sources hphase]
    exact h.stays hphase Phase.noConfusion not_false
  | draining kind =>
    rw [session.sendPhase_of_draining now files sources hphase]
    exact h.sendAnswer now files hphase
  | streaming =>
    rw [session.sendPhase_of_streaming now files sources hphase]
    exact h.sendFrames now hphase
  | closed => exact absurd hphase hopen

/-- What can come of an attempt to send. It never shows that the peer has hung up. -/
theorem send (h : session.Sound sources) (hopen : session.phase ≠ .closed) :
    Turn session.phase sources False (session.send now files sources) := by
  -- A flush moves nothing but the queue of its own failures.
  have hflushed := h.onTransport session.transport.flush.2
  by_cases hfails : Transport.FailsHard session.transport.flush.1
  · rw [session.send_eq_fail now files sources hfails]
    exact hflushed.fail _ not_false
  · rw [session.send_eq_sendPhase now files sources hfails]
    exact hflushed.sendPhase now files hopen

end Send

section Receive

variable {session : Session} {sources : Registry} (files : FileSystem)

/-- An answer needs nothing, if it is neither made from the sources nor a file. -/
theorem answering (session : Session) (sources : Registry) {kind : RouteKind}
    (hkind : kind.isCanned = true) (response : Bytes) :
    (session.answering kind response).Sound sources where
  exists_cursor := by cases kind <;> simp_all [Session.answering, RouteKind.isCanned]
  exists_file := by cases kind <;> simp_all [Session.answering, RouteKind.isCanned]
  responseSent_le := Nat.zero_le _

/-- A session begins an answer with what it needs for that. -/
theorem respond (session : Session) (sources : Registry) (route : Route) :
    (session.respond files sources route).Sound sources := by
  cases route with
  | badRequest | authRequired | notFound | streamInfo => exact answering session sources rfl _
  | stream source | still source =>
    rw [Session.respond]
    cases hstore : sources.get? source with
    | none => exact answering session sources rfl _
    | some store =>
      have hsource : source < sources.size := (List.getElem?_eq_some_iff.mp hstore).1
      dsimp only
      refine of_cursor rfl (by exact hsource) ?_ (Nat.zero_le _)
      simp [Session.answering]
  | staticFile path length mediaType =>
    rw [Session.respond]
    cases files.openFile path with
    | error fault => exact answering session sources rfl _
    | ok file =>
      refine ⟨?_, fun _ => ⟨file, rfl⟩, Nat.zero_le _⟩
      intro hneeds
      simp [Session.answering] at hneeds

/-- What was read is kept, or it is answered. -/
theorem gather (h : session.Sound sources) (hphase : session.phase = .awaitingHeaders)
    {hungUp : Prop} (hstands : ¬ hungUp) (router : Router) (bytes : Bytes) :
    Turn .awaitingHeaders sources hungUp (.keep, session.gather router files sources bytes) := by
  have hrespond (route : Route) : Turn .awaitingHeaders sources hungUp
      (.keep, { session with request := [] }.respond files sources route) := by
    obtain ⟨kind, head, cursor, file, heq⟩ :=
      exists_respond_eq { session with request := [] } files sources route
    refine .goesOn hstands (respond files _ sources route) ?_ ?_
    all_goals rw [heq]
    · exact .answer kind
    · exact Phase.noConfusion
  rw [Session.gather]
  dsimp only
  split
  · exact hrespond _
  · split
    · exact hrespond _
    · refine stays ?_ hphase Phase.noConfusion hstands
      exact ⟨h.1, h.2, h.3⟩

/-- What can come of an attempt to read. -/
theorem receive (h : session.Sound sources) (hopen : session.phase ≠ .closed) (now : Nat)
    (router : Router) : Turn session.phase sources session.SeesHangUp
      (session.receive now router files sources) := by
  by_cases hphase : session.phase = .awaitingHeaders
  · rw [receive_of_awaitingHeaders hphase, SeesHangUp]
    cases session.transport.read session.readSize with
    | mk result transport =>
      have hkept := h.onTransport transport
      cases result with
      | error error =>
        have hstands : ¬ (session.phase = .awaitingHeaders ∧
            (Except.error error : Except TransportError Bytes) = .ok []) := by simp
        dsimp only at hstands ⊢
        split
        · exact hkept.stays rfl hopen hstands
        · exact hkept.fail _ hstands
      | ok bytes =>
        dsimp only
        split
        next hempty =>
          have hnil : bytes = [] := List.isEmpty_iff.mp hempty
          exact .hangsUp ⟨hphase, by rw [hnil]⟩ hkept rfl
        next hempty =>
          have hread : (session.afterRead now transport bytes).Sound sources := ⟨h.1, h.2, h.3⟩
          have hstands : ¬ (session.phase = .awaitingHeaders ∧
              (Except.ok bytes : Except TransportError Bytes) = .ok []) := by
            rintro ⟨-, hnil⟩
            exact hempty (List.isEmpty_iff.mpr (Except.ok.inj hnil))
          rw [hphase] at hstands ⊢
          exact hread.gather files hphase hstands router bytes
  · rw [receive_of_ne hphase]
    exact h.stays rfl hopen fun hhungUp => hphase hhungUp.1

end Receive

end Sound

end Session

namespace Exchange

/-- The event shows the session that its peer has hung up. -/
def Event.SeesHangUp (session : Session) : Event → Prop
  | receive .. => session.SeesHangUp
  | push _ | network _ | send .. => False

variable {exchange : Exchange}

/-- What can come of an event, as long as the session is not over. -/
theorem turn (h : exchange.session.Sound exchange.sources) (hopen : exchange.session.phase ≠ .closed)
    (event : Event) : Session.Turn exchange.session.phase exchange.sources
      (event.SeesHangUp exchange.session) (exchange.flow event, (exchange.step event).session) := by
  cases event with
  | push offered => exact h.stays rfl hopen not_false
  | network future =>
    exact (h.onTransport _).stays rfl hopen not_false
  | receive now router files => exact h.receive files hopen now router
  | send now files => exact h.send now files hopen

/-- Nothing but its connection changes for a session that is over. -/
theorem step_of_closed (hphase : exchange.session.phase = .closed) (event : Event) :
    ∃ transport, (exchange.step event).session = { exchange.session with transport } := by
  cases event with
  | push offered => exact ⟨_, rfl⟩
  | network future => exact ⟨_, rfl⟩
  | receive now router files =>
    rw [step, Session.receive_of_ne (by simp [hphase])]
    exact ⟨_, rfl⟩
  | send now files =>
    rw [step, Session.send_of_isOver hphase]
    exact ⟨_, rfl⟩

/-- Every event changes the phase in one of the ways that there are. -/
theorem next_step (h : exchange.session.Sound exchange.sources) (event : Event) :
    exchange.session.phase.Next (exchange.step event).session.phase := by
  by_cases hphase : exchange.session.phase = .closed
  · obtain ⟨transport, hstep⟩ := step_of_closed hphase event
    rw [hstep]
    exact .stay _
  · exact (turn h hphase event).next

/-- A session that is over does not see that its peer has hung up. -/
theorem peerClosed_iff_of_closed (hphase : exchange.session.phase = .closed) (event : Event) :
    exchange.flow event = .close .peerClosed ↔ event.SeesHangUp exchange.session := by
  cases event with
  | push offered => simp [flow, Event.SeesHangUp]
  | network future => simp [flow, Event.SeesHangUp]
  | receive now router files =>
    rw [flow, Session.receive_of_ne (by simp [hphase])]
    simp [Event.SeesHangUp, Session.SeesHangUp, hphase]
  | send now files =>
    rw [flow]
    by_cases hfails : Transport.FailsHard exchange.session.transport.flush.1
    · rw [Session.send_eq_fail _ now files _ hfails]
      simp [Session.fail, Event.SeesHangUp]
    · rw [Session.send_eq_sendPhase _ now files _ hfails, Session.sendPhase_of_closed]
      · simp [Event.SeesHangUp]
      · exact hphase

/-- After every event a session has what its phase needs, as stores do not go away. -/
theorem sound_step (h : exchange.session.Sound exchange.sources) (event : Event) :
    (exchange.step event).session.Sound (exchange.step event).sources := by
  have hsize : (exchange.step event).sources.size = exchange.sources.size := by
    rw [sources_step, Registry.size_pushedAll]
  refine Session.Sound.congr ?_ hsize
  -- A session that is over needs nothing any more; any other one takes a turn.
  by_cases hphase : exchange.session.phase = .closed
  · obtain ⟨transport, hstep⟩ := step_of_closed hphase event
    rw [hstep]
    exact h.onTransport transport
  · exact (turn h hphase event).sound

/-- Along every run a session has what its phase needs. -/
theorem sound_run (h : exchange.session.Sound exchange.sources) (events : List Event) :
    (exchange.run events).session.Sound (exchange.run events).sources := by
  induction events using List.reverseRecOn with
  | nil => exact h
  | append_singleton events event ih =>
    rw [run_concat]
    exact sound_step ih event

/-- Along every run of a new session, whatever its connection does and its sources deliver: the
session has what its phase needs, and every event changes the phase in one of the ways that there
are. An event closes a session that is not over exactly if it ends it, but for the end of the
requests, which a read that brings nothing shows. A stream ends only if its connection fails. A
session that is over does not read or write, and stays as it is but for what a flush uses up. -/
theorem life_cycle (id : Nat) (peer : SocketAddress) (transport : Transport)
    (headerLimit chunkSize now : Nat) (sources : Registry) (events : List Event) :
    let begun := Session.new id peer transport headerLimit chunkSize now
    let exchange := (Exchange.mk begun sources).run events
    let session := exchange.session
    exchange.sources.size = sources.size ∧ session.Sound exchange.sources ∧
      (∀ event, let next := (exchange.step event).session
        session.phase.Next next.phase ∧
        (session.phase ≠ .closed →
          ((∃ reason, exchange.flow event = .close reason ∧ reason ≠ .peerClosed) ↔
            next.phase = .closed)) ∧
        (exchange.flow event = .close .peerClosed ↔ event.SeesHangUp session) ∧
        (session.phase = .draining .stream ∨ session.phase = .streaming →
          exchange.flow event = .keep ∨ exchange.flow event = .close .transportFailed)) ∧
      (session.phase = .closed → ∀ now router files,
        session.receive now router files exchange.sources = (.keep, session) ∧
        (session.send now files exchange.sources).2 =
          { session with
            transport := { session.transport with
              flushErrors := session.transport.flushErrors.tail } }) := by
  intro begun exchange session
  have hbegun : begun.Sound sources := .of_idle (Or.inl rfl) (Nat.zero_le _)
  have hsound : session.Sound exchange.sources := sound_run hbegun events
  refine ⟨?_, hsound, ?_, ?_⟩
  · rw [sources_run, Registry.size_pushedAll]
  · intro event
    by_cases hphase : session.phase = .closed
    · -- Nothing is closed and nothing is streamed any more.
      obtain ⟨transport, hstep⟩ := step_of_closed hphase event
      rw [hstep]
      refine ⟨.stay _, fun hopen => absurd hphase hopen, peerClosed_iff_of_closed hphase event, ?_⟩
      rintro (hstream | hstream) <;> cases hphase.symm.trans hstream
    · have hturn := turn hsound hphase event
      refine ⟨hturn.next, fun _ => hturn.closes_iff hphase, hturn.peerClosed_iff, ?_⟩
      intro hstream
      apply hturn.of_stream hstream
      cases event with
      | receive =>
        rintro ⟨hawaits, -⟩
        rcases hstream with hstream | hstream <;> cases hawaits.symm.trans hstream
      | push | network | send => exact not_false
  · intro hphase now router files
    exact ⟨Session.receive_of_ne (by simp [hphase]) .., Session.send_of_isOver hphase ..⟩

end Exchange

end MotionJpeg
