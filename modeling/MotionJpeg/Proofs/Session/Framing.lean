import MotionJpeg.Proofs.Bytes.Search
import MotionJpeg.Proofs.Session.Exchange
import MotionJpeg.Proofs.Session.Reading

/-!
# Framing of requests

A request ends with the first blank line, wherever the pieces begin and end in which its bytes
arrive. Until then a session gathers what it reads, up to the limit for a head.

* `Session.Waits` is the invariant of a session that waits for its first request.
* `Exchange.Begins`: the session has stopped waiting and begun with an answer.
* `Exchange.request_framing`: which of the two it is, and which answer, depends on the bytes that
  were sent and on how many of them were read.
-/

namespace MotionJpeg

namespace Http

variable {front : Bytes} {e : Nat}

/-- The blank line that ends a head is not moved by bytes that follow it. -/
theorem headEnd?_append (h : headEnd? front = some e) (rest : Bytes) :
    headEnd? (front ++ rest) = some e ∧ e + blankLine.length ≤ front.length :=
  ⟨Bytes.search?_append_of_eq_some h rest, (Bytes.search?_eq_some_iff.mp h).1.add_length_le⟩

/-- A blank line that was not found yet ends among the bytes that follow. -/
theorem length_lt_of_headEnd? {rest : Bytes} (hnone : headEnd? front = none)
    (h : headEnd? (front ++ rest) = some e) : front.length < e + blankLine.length := by
  by_contra hle
  have hfound : headEnd? front = some e := Bytes.search?_of_append h (Nat.not_lt.mp hle)
  rw [hnone] at hfound
  cases hfound

end Http

namespace Session

/-- The session waits for its first request and has gathered what was read. -/
structure Waits (origin session : Session) : Prop where
  phase_eq : session.phase = .awaitingHeaders
  unread_eq : origin.transport.unread = session.request ++ session.transport.unread
  headEnd?_eq : Http.headEnd? session.request = none
  length_lt : session.request.length < session.headerLimit
  headerLimit_eq : session.headerLimit = origin.headerLimit
  delivers : session.transport.Delivers
  sent_eq : session.transport.sent = origin.transport.sent
  received_eq : session.stats.bytesReceived = session.request.length

namespace Waits

variable {origin session : Session}

/-- A new session waits, with nothing gathered. -/
theorem new (id : Nat) (peer : SocketAddress) {transport : Transport}
    (h : transport.Delivers) (headerLimit chunkSize now : Nat) :
    (Session.new id peer transport headerLimit chunkSize now).Waits
      (Session.new id peer transport headerLimit chunkSize now) where
  phase_eq := rfl
  unread_eq := rfl
  headEnd?_eq := rfl
  length_lt := by
    have hroom : 0 < minHeaderLimit := by decide
    exact Nat.lt_of_lt_of_le hroom (Nat.le_max_right headerLimit minHeaderLimit)
  headerLimit_eq := rfl
  delivers := h
  sent_eq := rfl
  received_eq := rfl

/-- What was gathered is what was read. -/
theorem request_eq (h : origin.Waits session) : session.request =
    origin.transport.unread.take
      (origin.transport.unread.length - session.transport.unread.length) := by
  rw [h.unread_eq, List.length_append, Nat.add_sub_cancel, List.take_left]

/-- A delay changes nothing. -/
theorem delay (h : origin.Waits session) {transport : Transport} (hdelivers : transport.Delivers)
    (hsent : transport.sent = session.transport.sent)
    (hunread : session.transport.unread = transport.unread) :
    origin.Waits { session with transport } :=
  { h with
    unread_eq := by rw [h.unread_eq, hunread]
    delivers := hdelivers
    sent_eq := hsent.trans h.sent_eq }

/-- Bytes that were read complete the request, or make it too long, or are gathered. -/
theorem gather (h : origin.Waits session) {transport : Transport} {bytes : Bytes}
    (hdelivers : transport.Delivers) (hsent : transport.sent = session.transport.sent)
    (hunread : session.transport.unread = bytes ++ transport.unread)
    (hfits : (session.request ++ bytes).length ≤ session.headerLimit) (now : Nat) (router : Router)
    (files : FileSystem) (sources : Registry) :
    let next := session.afterRead now transport bytes
    (∃ e, Http.headEnd? origin.transport.unread = some e ∧
      e + Http.blankLine.length ≤ (session.request ++ bytes).length ∧
      session.request.length < e + Http.blankLine.length ∧
      next.gather router files sources bytes =
        { next with request := [] }.respond files sources
          (router.route files (.parse (origin.transport.unread.take e)) sources.size)) ∨
    ((∀ e, Http.headEnd? origin.transport.unread = some e →
        origin.headerLimit < e + Http.blankLine.length) ∧
      (session.request ++ bytes).length = origin.headerLimit ∧
      next.gather router files sources bytes =
        { next with request := [] }.respond files sources .badRequest) ∨
    origin.Waits (next.gather router files sources bytes) ∧
      (next.gather router files sources bytes).transport = transport := by
  intro next
  -- The bytes that were sent are those gathered so far, the new ones and those still to come, so
  -- the search in the first two pieces tells where the search in all of them ends.
  have hdata : origin.transport.unread = session.request ++ bytes ++ transport.unread := by
    rw [h.unread_eq, hunread, List.append_assoc]
  have hrequest : next.request = session.request := rfl
  rw [Session.gather, hrequest]
  cases hend : Http.headEnd? (session.request ++ bytes) with
  | some e =>
    -- The blank line ends in the new bytes, as there was none in those gathered before.
    obtain ⟨hfound, hle⟩ := Http.headEnd?_append hend transport.unread
    rw [← hdata] at hfound
    refine Or.inl ⟨e, hfound, hle, ?_, ?_⟩
    · rw [h.unread_eq] at hfound
      exact Http.length_lt_of_headEnd? h.headEnd?_eq hfound
    · have htake : (session.request ++ bytes).take e = origin.transport.unread.take e := by
        rw [hdata]
        exact (List.take_append_of_le_length (Nat.le_trans (Nat.le_add_right _ _) hle)).symm
      rw [← htake]
  | none =>
    by_cases hfull : (session.request ++ bytes).length ≥ session.headerLimit
    · -- No more is read than the limit leaves room for, so it is met exactly.
      have hlength : (session.request ++ bytes).length = origin.headerLimit := by
        rw [← h.headerLimit_eq]
        exact Nat.le_antisymm hfits hfull
      refine Or.inr (Or.inl ⟨fun e he => ?_, hlength, if_pos hfull⟩)
      rw [hdata] at he
      rw [← hlength]
      exact Http.length_lt_of_headEnd? hend he
    · -- The bytes are gathered, and there is room for more.
      refine Or.inr (Or.inr ?_)
      have hroom : ¬ (session.request ++ bytes).length ≥ next.headerLimit := hfull
      dsimp only
      rw [if_neg hroom]
      refine ⟨?_, rfl⟩
      exact {
        phase_eq := h.phase_eq
        unread_eq := hdata
        headEnd?_eq := hend
        length_lt := Nat.not_le.mp hfull
        headerLimit_eq := h.headerLimit_eq
        delivers := hdelivers
        sent_eq := hsent.trans h.sent_eq
        received_eq := by
          show session.stats.bytesReceived + bytes.length = (session.request ++ bytes).length
          rw [h.received_eq, List.length_append] }

end Waits

end Session

namespace Exchange

/-- A router is asked about what is read, and payloads are pushed in between. -/
def Event.Reads (router : Router) : Event → Prop
  | receive _ other _ => other = router
  | push _ => True
  | network _ | send .. => False

/-- How many bytes a session has read since the start. -/
def bytesRead (start : Exchange) (session : Session) : Nat :=
  start.session.transport.unread.length - session.transport.unread.length

/-- With one of the events the session stopped to wait for a request, and it is as the answer for
the route begins. Before that event it had read fewer bytes than were `enough`. -/
def Begins (start : Exchange) (enough : Nat) (route : FileSystem → Registry → Route)
    (events : List Event) : Prop :=
  ∃ done now router files rest, events = done ++ .receive now router files :: rest ∧
    (start.run done).session.phase = .awaitingHeaders ∧
    start.bytesRead (start.run done).session < enough ∧
    (start.run events).session =
      { (start.run done).session with
        transport := (start.run events).session.transport
        request := []
        lastActivity := now
        stats.bytesReceived := start.bytesRead (start.run events).session }.respond files
          (start.run done).sources (route files (start.run done).sources)

/-- A session either waits for a request, or has begun with the route of one, or has refused it. -/
inductive Framed (start : Exchange) (router : Router) (events : List Event) : Prop where
  /-- Every attempt to read has made the backlog smaller, as long as there was one. -/
  | waits (h : start.session.Waits (start.run events).session)
    (hbacklog : (start.run events).session.transport.backlog + events.countP Event.isReceive ≤
        start.session.transport.backlog ∨
      (start.run events).session.transport.arrivals = [])
  | routes (e : Nat) (hend : Http.headEnd? start.session.transport.unread = some e)
    (hfits : e + Http.blankLine.length ≤ start.session.headerLimit)
    (hread : e + Http.blankLine.length ≤ start.bytesRead (start.run events).session)
    (hsent : (start.run events).session.transport.sent = start.session.transport.sent)
    (hbegins : start.Begins (e + Http.blankLine.length) (fun files sources =>
      router.route files (.parse (start.session.transport.unread.take e)) sources.size) events)
  | refuses (hlong : ∀ e, Http.headEnd? start.session.transport.unread = some e →
      start.session.headerLimit < e + Http.blankLine.length)
    (hread : start.bytesRead (start.run events).session = start.session.headerLimit)
    (hsent : (start.run events).session.transport.sent = start.session.transport.sent)
    (hbegins : start.Begins start.session.headerLimit (fun _ _ => .badRequest) events)

variable {start : Exchange} {router : Router} {events : List Event}

/-- A session that has begun with an answer does not wait. -/
theorem Begins.phase_ne {enough : Nat} {route : FileSystem → Registry → Route}
    (h : start.Begins enough route events) :
    (start.run events).session.phase ≠ .awaitingHeaders := by
  obtain ⟨done, now, router, files, rest, -, -, -, hsession⟩ := h
  rw [hsession]
  exact Session.phase_respond_ne _ _ _ _

/-- Nothing that is read or pushed later changes an answer that has begun. -/
theorem session_step_of_ne (hphase : (start.run events).session.phase ≠ .awaitingHeaders)
    {event : Event} (hreads : event.Reads router) :
    (start.run (events ++ [event])).session = (start.run events).session := by
  rw [run_concat]
  cases event with
  | push offered => rfl
  | receive now router files => exact Session.receive_eq_self hphase _ _ _ _
  | network future | send now files => cases hreads

/-- An answer that has begun stays begun. -/
theorem Begins.concat {enough : Nat} {route : FileSystem → Registry → Route}
    (h : start.Begins enough route events) {event : Event} (hreads : event.Reads router) :
    start.Begins enough route (events ++ [event]) := by
  have hstep := session_step_of_ne h.phase_ne hreads
  obtain ⟨done, now, router, files, rest, hevents, hwaits, hless, hsession⟩ := h
  refine ⟨done, now, router, files, rest ++ [event], by rw [hevents]; simp, hwaits, hless, ?_⟩
  rw [hstep]
  exact hsession

/-- Where an attempt to read begins with an answer. -/
theorem begins_of_waits (h : start.session.Waits (start.run events).session)
    {transport : Transport} {bytes : Bytes} {now : Nat} {other : Router} {files : FileSystem}
    (hunread : (start.run events).session.transport.unread = bytes ++ transport.unread)
    {enough : Nat} (hless : (start.run events).session.request.length < enough)
    (route : FileSystem → Registry → Route)
    (hsession : (start.run (events ++ [.receive now other files])).session =
      { (start.run events).session.afterRead now transport bytes with request := [] }.respond files
        (start.run events).sources (route files (start.run events).sources)) :
    start.Begins enough route (events ++ [.receive now other files]) ∧
      start.bytesRead (start.run (events ++ [.receive now other files])).session =
        ((start.run events).session.request ++ bytes).length ∧
      (start.run (events ++ [.receive now other files])).session.transport = transport := by
  have htransport : (start.run (events ++ [.receive now other files])).session.transport =
      transport := by
    rw [hsession, Session.transport_respond]
    rfl
  have hread : start.bytesRead (start.run (events ++ [.receive now other files])).session =
      ((start.run events).session.request ++ bytes).length := by
    rw [bytesRead, htransport, h.unread_eq, hunread, ← List.append_assoc, List.length_append,
      Nat.add_sub_cancel]
  refine ⟨⟨events, now, other, files, [], rfl, h.phase_eq, ?_, ?_⟩, hread, htransport⟩
  · rw [bytesRead, h.unread_eq, List.length_append, Nat.add_sub_cancel]
    exact hless
  · rw [htransport, hread, List.length_append, ← h.received_eq]
    exact hsession

/-- Every event keeps the invariant. -/
theorem Framed.step (h : Framed start router events) {event : Event}
    (hreads : event.Reads router) : Framed start router (events ++ [event]) := by
  cases h with
  -- An answer that has begun is not touched by reads and pushes.
  | routes e hend hfits hread hsent hbegins =>
    have hstep := session_step_of_ne hbegins.phase_ne hreads
    exact .routes e hend hfits (hstep ▸ hread) (hstep ▸ hsent) (hbegins.concat hreads)
  | refuses hlong hread hsent hbegins =>
    have hstep := session_step_of_ne hbegins.phase_ne hreads
    exact .refuses hlong (hstep ▸ hread) (hstep ▸ hsent) (hbegins.concat hreads)
  | waits h hbacklog =>
    cases event with
    | network future | send now files => cases hreads
    | push offered =>
      refine .waits (by rw [run_concat]; exact h) ?_
      rw [run_concat, List.countP_append]
      exact hbacklog
    | receive now other files =>
      obtain rfl : other = router := hreads
      have hcount : (events ++ [Event.receive now other files]).countP Event.isReceive =
          events.countP Event.isReceive + 1 := by
        rw [List.countP_append]
        rfl
      have hrun : (start.run (events ++ [.receive now other files])).session =
          ((start.run events).session.receive now other files (start.run events).sources).2 := by
        rw [run_concat]
        rfl
      rcases Session.receive_cases h.phase_eq h.length_lt h.delivers now other files
          (start.run events).sources with
        ⟨hnone, hsession⟩ | ⟨transport, hdelivers, hsent, hless, hcases⟩
      · rw [← hrun] at hsession
        exact .waits (hsession ▸ h) (Or.inr (hsession ▸ hnone))
      · -- An attempt that met something was made while there was a backlog.
        have hsome : (start.run events).session.transport.backlog +
            events.countP Event.isReceive ≤ start.session.transport.backlog := by
          refine hbacklog.resolve_right fun hnone => ?_
          simp [Transport.backlog, Transport.unread, hnone] at hless
        rcases hcases with ⟨hunread, hsession⟩ | ⟨bytes, hunread, -, hfits, hsession⟩
        · -- The attempt was delayed.
          rw [← hrun] at hsession
          refine .waits ?_ (Or.inl ?_)
          · rw [hsession]
            exact h.delay hdelivers hsent hunread
          · rw [hsession, hcount]
            refine Nat.le_trans ?_ hsome
            rw [← Nat.add_assoc]
            exact Nat.add_lt_add_right hless _
        · -- Some bytes were read.
          rw [← hrun] at hsession
          rcases h.gather hdelivers hsent hunread hfits now other files
              (start.run events).sources with
            ⟨e, hend, hfound, hnew, hgather⟩ | ⟨hlong, hfull, hgather⟩ | ⟨hwaits, htransport⟩
          · rw [hgather] at hsession
            obtain ⟨hbegins, hread, htransport⟩ := begins_of_waits h hunread hnew
              (fun files sources => other.route files
                (.parse (start.session.transport.unread.take e)) sources.size) hsession
            refine .routes e hend ?_ (hread ▸ hfound) ?_ hbegins
            · rw [← h.headerLimit_eq]
              exact Nat.le_trans hfound hfits
            · rw [htransport, hsent, h.sent_eq]
          · rw [hgather] at hsession
            have hshort : (start.run events).session.request.length < start.session.headerLimit :=
              h.headerLimit_eq ▸ h.length_lt
            obtain ⟨hbegins, hread, htransport⟩ :=
              begins_of_waits h hunread hshort (fun _ _ => .badRequest) hsession
            refine .refuses hlong (hread.trans hfull) ?_ hbegins
            rw [htransport, hsent, h.sent_eq]
          · rw [← hsession] at hwaits htransport
            refine .waits hwaits (Or.inl ?_)
            rw [htransport, hcount]
            omega

/-- The invariant holds along every run of a new session. -/
theorem Framed.run {id : Nat} {peer : SocketAddress} {transport : Transport}
    (hdelivers : transport.Delivers) {headerLimit chunkSize now : Nat} {sources : Registry}
    (hreads : ∀ event ∈ events, event.Reads router) :
    Framed ⟨.new id peer transport headerLimit chunkSize now, sources⟩ router events := by
  induction events using List.reverseRecOn with
  | nil => exact .waits (.new id peer hdelivers headerLimit chunkSize now) (Or.inl (Nat.le_refl _))
  | append_singleton events event ih =>
    rw [List.forall_mem_append, List.forall_mem_singleton] at hreads
    exact (ih hreads.1).step hreads.2

/-- Whoever has read often enough has read everything. -/
theorem unread_eq_nil {session : Session} {backlog count : Nat}
    (h : session.transport.backlog + count ≤ backlog ∨ session.transport.arrivals = [])
    (hcount : backlog ≤ count) : session.transport.unread = [] := by
  rcases h with hless | hnone
  · rw [Transport.backlog] at hless
    exact List.length_eq_zero_iff.mp (by omega)
  · rw [Transport.unread, hnone]
    rfl

/-- The pieces in which a request arrives do not matter, nor the delays between them. A new session
waits until it has read the first blank line and begins then with the route of the bytes before
it, if the blank line ends within the limit. Otherwise it refuses the request as soon as it has read
as many bytes as the limit allows, and waits if there are fewer. -/
theorem request_framing (router : Router) (id : Nat) (peer : SocketAddress) {transport : Transport}
    (hdelivers : transport.Delivers) (headerLimit chunkSize now : Nat) (sources : Registry)
    (events : List Event) (hreads : ∀ event ∈ events, event.Reads router) :
    let start : Exchange := ⟨.new id peer transport headerLimit chunkSize now, sources⟩
    let final := (start.run events).session
    let data := transport.unread
    let limit := max headerLimit 4
    let got := start.bytesRead final
    let readsAll := transport.backlog ≤ events.countP Event.isReceive
    final.transport.sent = transport.sent ∧
    (∀ e, Http.headEnd? data = some e → e + 4 ≤ limit →
      (got < e + 4 → final.phase = .awaitingHeaders ∧ final.request = data.take got) ∧
      (e + 4 ≤ got → start.Begins (e + 4) (fun files sources =>
        router.route files (.parse (data.take e)) sources.size) events) ∧
      (readsAll → e + 4 ≤ got)) ∧
    ((∀ e, Http.headEnd? data = some e → limit < e + 4) →
      (limit ≤ data.length → got ≤ limit ∧
        (got < limit → final.phase = .awaitingHeaders ∧ final.request = data.take got) ∧
        (got = limit → start.Begins limit (fun _ _ => .badRequest) events) ∧
        (readsAll → got = limit)) ∧
      (data.length < limit → final.phase = .awaitingHeaders ∧ final.request = data.take got ∧
        (readsAll → final.request = data))) := by
  intro start final data limit got readsAll
  have hframed : Framed start router events := Framed.run hdelivers hreads
  have hgot : got ≤ data.length := Nat.sub_le _ _
  cases hframed with
  -- The session waits, so it has read neither the blank line nor as much as the limit allows.
  | waits h hbacklog =>
    have hrequest : final.request = data.take got := h.request_eq
    have hlength : final.request.length = got := by
      rw [hrequest, List.length_take, Nat.min_eq_left hgot]
    have hroom : got < limit := by
      have hlt := h.length_lt
      rw [h.headerLimit_eq] at hlt
      exact hlength ▸ hlt
    have hall (hread : readsAll) : got = data.length := by
      have hunread := unread_eq_nil hbacklog hread
      show data.length - final.transport.unread.length = data.length
      rw [hunread]
      rfl
    refine ⟨h.sent_eq, fun e he hfits => ?_, fun hlong => ⟨fun hmany => ?_, fun hfew => ?_⟩⟩
    · -- The blank line is not in what was gathered, so it ends later.
      have hshort : got < e + 4 := by
        have he' : Http.headEnd? (final.request ++ final.transport.unread) = some e := by
          rw [← h.unread_eq]
          exact he
        rw [← hlength]
        exact Http.length_lt_of_headEnd? h.headEnd?_eq he'
      have hend := (Bytes.search?_eq_some_iff.mp he).1.add_length_le
      refine ⟨fun _ => ⟨h.phase_eq, hrequest⟩, fun hle => absurd hle (Nat.not_le.mpr hshort), ?_⟩
      intro hread
      rw [hall hread]
      exact hend
    · refine ⟨Nat.le_of_lt hroom, fun _ => ⟨h.phase_eq, hrequest⟩,
        fun heq => absurd heq (Nat.ne_of_lt hroom), fun hread => ?_⟩
      have heq := hall hread
      omega
    · refine ⟨h.phase_eq, hrequest, fun hread => ?_⟩
      rw [hrequest, hall hread, List.take_length]
  -- The blank line that was found is the one that the statement is about, and it ends in time.
  | routes e hend hfits hread hsent hbegins =>
    refine ⟨hsent, fun e' he' _ => ?_, fun hlong => ?_⟩
    · obtain rfl : e = e' := Option.some.inj (hend.symm.trans he')
      exact ⟨fun hless => absurd hread (Nat.not_le.mpr hless), fun _ => hbegins, fun _ => hread⟩
    · exact absurd hfits (Nat.not_le.mpr (hlong e hend))
  -- The limit was reached, so there are as many bytes and no blank line ends in time.
  | refuses hlong hread hsent hbegins =>
    refine ⟨hsent, fun e he hfits => ?_, fun _ => ⟨fun _ => ?_, fun hfew => ?_⟩⟩
    · exact absurd hfits (Nat.not_le.mpr (hlong e he))
    · exact ⟨Nat.le_of_eq hread, fun hless => absurd hread (Nat.ne_of_lt hless), fun _ => hbegins,
        fun _ => hread⟩
    · have hread : got = limit := hread
      omega

section SplitRequest

/-- A request whose blank line arrives in two pieces, with a delay between them. -/
def splitRequest : Transport where
  arrivals := [
    .data (.ofString "GET /still/0 HTTP/1.0\x0d\n\x0d"),
    .failure .interrupted,
    .data (.ofString "\nmore")]

/-- Enough attempts to read the request in chunks of a few bytes, and a push between them. -/
def splitEvents : List Event :=
  List.replicate 3 (.receive 1 {} {}) ++ .push ⟨0, [255, 216]⟩ ::
    List.replicate 29 (.receive 2 {} {})

/-- The split request is routed although its blank line ends exactly at the limit. -/
theorem request_framing_splitRequest : splitRequest.Delivers ∧
    (∀ event ∈ splitEvents, event.Reads {}) ∧
    let sources := Registry.ofSizes [(1, 8)] 640 480
    let start : Exchange := ⟨.new 1 (.v4 .loopback 5000) splitRequest 25 7 0, sources⟩
    let final := (start.run splitEvents).session
    let data := splitRequest.unread
    let limit := max 25 4
    let got := start.bytesRead final
    let readsAll := splitRequest.backlog ≤ splitEvents.countP Event.isReceive
    (Http.headEnd? data = some 21 ∧ readsAll ∧ got = 25) ∧
    (final.phase = .draining .still ∧ final.response.toBytes = Http.Reply.stillHeader ∧
      final.cursor = some ⟨0, 0, 0⟩ ∧ final.request = []) ∧
    final.transport.sent = splitRequest.sent ∧
    (∀ e, Http.headEnd? data = some e → e + 4 ≤ limit →
      (got < e + 4 → final.phase = .awaitingHeaders ∧ final.request = data.take got) ∧
      (e + 4 ≤ got → start.Begins (e + 4) (fun files sources =>
        Router.route {} files (.parse (data.take e)) sources.size) splitEvents) ∧
      (readsAll → e + 4 ≤ got)) ∧
    ((∀ e, Http.headEnd? data = some e → limit < e + 4) →
      (limit ≤ data.length → got ≤ limit ∧
        (got < limit → final.phase = .awaitingHeaders ∧ final.request = data.take got) ∧
        (got = limit → start.Begins limit (fun _ _ => .badRequest) splitEvents) ∧
        (readsAll → got = limit)) ∧
      (data.length < limit → final.phase = .awaitingHeaders ∧ final.request = data.take got ∧
        (readsAll → final.request = data))) := by
  have hdelivers : splitRequest.Delivers := by decide +kernel
  have hreads : ∀ event ∈ splitEvents, event.Reads {} := by
    simp [splitEvents, Event.Reads]
  refine ⟨hdelivers, hreads, by decide +kernel, by decide +kernel, ?_⟩
  exact request_framing {} 1 (.v4 .loopback 5000) hdelivers 25 7 0
    (Registry.ofSizes [(1, 8)] 640 480) splitEvents hreads

end SplitRequest

end Exchange

end MotionJpeg
