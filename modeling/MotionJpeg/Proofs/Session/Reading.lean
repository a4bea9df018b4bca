import MotionJpeg.Session.Receive

/-!
# Single attempts to read

A connection that delivers brings bytes in pieces of any size, and may have nothing to give for a
while in between. An attempt to read takes the front of what has not been read yet.

* `Transport.Delivers`: the connection brings bytes and does not fail for good.
* `Transport.backlog` bounds how many attempts it takes to read everything.
* `Session.receive_cases`: what can come of an attempt of a session that waits for a request.
-/

namespace MotionJpeg

/-- Something that a read comes upon on a connection that stands. -/
def Arrival.IsDelivery : Arrival → Prop
  | data bytes => bytes ≠ []
  | failure error => error.isTransient = true

instance : DecidablePred Arrival.IsDelivery
  | .data bytes => inferInstanceAs (Decidable (bytes ≠ []))
  | .failure error => inferInstanceAs (Decidable (error.isTransient = true))

namespace Transport

variable (transport : Transport)

/-- Bytes arrive, and nothing else happens but delays. -/
def Delivers : Prop := ∀ arrival ∈ transport.arrivals, arrival.IsDelivery

instance : Decidable transport.Delivers := inferInstanceAs (Decidable (∀ _ ∈ _, _))

/-- What is left to read, counted in pieces and bytes. -/
def backlog : Nat := transport.arrivals.length + transport.unread.length

/-- A read gives the peer nothing. -/
@[simp]
theorem sent_read (limit : Nat) : (transport.read limit).2.sent = transport.sent := by
  rw [read]
  split <;> rfl

variable {transport}

/-- A read on a connection that delivers finds nothing, or is delayed, or takes some bytes from
the front of the unread ones. -/
theorem read_cases (h : transport.Delivers) {limit : Nat} (hlimit : 0 < limit) :
    (transport.arrivals = [] ∧ (transport.read limit = (.ok [], transport) ∨
      transport.read limit = (.error .wouldBlock, transport))) ∨
    ∃ next, next.Delivers ∧ next.sent = transport.sent ∧ next.backlog < transport.backlog ∧
      ((∃ error, error.isTransient = true ∧ transport.read limit = (.error error, next) ∧
        transport.unread = next.unread) ∨
      ∃ bytes, bytes ≠ [] ∧ bytes.length ≤ limit ∧ transport.read limit = (.ok bytes, next) ∧
        transport.unread = bytes ++ next.unread) := by
  rw [Delivers] at h
  rw [read]
  cases harrivals : transport.arrivals with
  | nil =>
    -- Nothing is left to read, and the peer has hung up or not.
    refine Or.inl ⟨rfl, ?_⟩
    cases transport.hasEnded with
    | true => exact Or.inl rfl
    | false => exact Or.inr rfl
  | cons arrival rest =>
    rw [harrivals, List.forall_mem_cons] at h
    obtain ⟨hfirst, hrest⟩ := h
    refine Or.inr ?_
    cases arrival with
    | failure error =>
      -- The delay is over with this attempt.
      refine ⟨{ transport with arrivals := rest }, hrest, rfl, ?_, Or.inl ⟨error, hfirst, rfl, ?_⟩⟩
      · simp [backlog, unread, harrivals]
      · simp [unread, harrivals]
    | data bytes =>
      have hfirst : bytes ≠ [] := hfirst
      have hpos : 0 < bytes.length := List.length_pos_iff.mpr hfirst
      have htake : bytes.take limit ≠ [] := by
        simp [hfirst, Nat.ne_of_gt hlimit]
      -- What is left of the piece goes back to the front, so the backlog counts its bytes too: as
      -- a piece it may come up again, but every time with fewer of them.
      by_cases hleft : bytes.drop limit = []
      · refine ⟨{ transport with arrivals := rest }, hrest, rfl, ?_,
          Or.inr ⟨bytes.take limit, htake, List.length_take_le _ _, ?_, ?_⟩⟩
        · simp only [backlog, unread, harrivals, List.flatMap_cons, List.length_cons,
            List.length_append]
          omega
        · simp [hleft]
        · have hall : bytes.take limit = bytes :=
            List.take_of_length_le (List.drop_eq_nil_iff.mp hleft)
          simp [unread, harrivals, hall]
      · refine ⟨{ transport with arrivals := .data (bytes.drop limit) :: rest }, ?_, rfl, ?_,
          Or.inr ⟨bytes.take limit, htake, List.length_take_le _ _, ?_, ?_⟩⟩
        · exact List.forall_mem_cons.mpr ⟨hleft, hrest⟩
        · simp only [backlog, unread, harrivals, List.flatMap_cons, List.length_cons,
            List.length_append, List.length_drop]
          omega
        · simp [hleft]
        · simp only [unread, harrivals, List.flatMap_cons, ← List.append_assoc,
            List.take_append_drop]

end Transport

namespace Session

/-- The session after it read some bytes, before it looks at them. -/
def afterRead (session : Session) (now : Nat) (transport : Transport) (bytes : Bytes) : Session :=
  { session with
    transport
    lastActivity := now
    stats.bytesReceived := session.stats.bytesReceived + bytes.length }

variable {session : Session}

/-- As long as the limit leaves room something is asked for. -/
theorem readSize_pos (hroom : session.request.length < session.headerLimit) :
    0 < session.readSize := by
  have hpos := session.chunkSize_pos
  rw [readSize]
  omega

/-- No more is read than the limit leaves room for. -/
theorem length_append_le (hroom : session.request.length < session.headerLimit) {bytes : Bytes}
    (hlength : bytes.length ≤ session.readSize) :
    (session.request ++ bytes).length ≤ session.headerLimit := by
  rw [readSize] at hlength
  rw [List.length_append]
  omega

section Receive

variable {transport : Transport} (hphase : session.phase = .awaitingHeaders) (now : Nat)
  (router : Router) (files : FileSystem) (sources : Registry)

include hphase

theorem wantsRead_of_awaitingHeaders : session.wantsRead = true := by
  rw [wantsRead, hphase]
  rfl

/-- A session that waits gathers what it reads. -/
theorem receive_of_ok {bytes : Bytes} (hne : bytes ≠ [])
    (hread : session.transport.read session.readSize = (.ok bytes, transport)) :
    (session.receive now router files sources).2 =
      (session.afterRead now transport bytes).gather router files sources bytes := by
  simp [receive, wantsRead_of_awaitingHeaders hphase, hread, hne, afterRead]

/-- A delay of a read changes nothing. -/
theorem receive_of_transient {error : TransportError} (htransient : error.isTransient = true)
    (hread : session.transport.read session.readSize = (.error error, transport)) :
    (session.receive now router files sources).2 = { session with transport } := by
  simp [receive, wantsRead_of_awaitingHeaders hphase, hread, htransient]

/-- Nothing changes when there are no bytes, also if there will never be any. -/
theorem receive_of_nil (hread : session.transport.read session.readSize = (.ok [], transport)) :
    (session.receive now router files sources).2 = { session with transport } := by
  simp [receive, wantsRead_of_awaitingHeaders hphase, hread]

end Receive

/-- A session that waits for a request finds nothing to read, or is delayed, or gathers some bytes
from the front of the unread ones, but no more than the limit leaves room for. -/
theorem receive_cases (hphase : session.phase = .awaitingHeaders)
    (hroom : session.request.length < session.headerLimit) (h : session.transport.Delivers)
    (now : Nat) (router : Router) (files : FileSystem) (sources : Registry) :
    (session.transport.arrivals = [] ∧ (session.receive now router files sources).2 = session) ∨
    ∃ transport, transport.Delivers ∧ transport.sent = session.transport.sent ∧
      transport.backlog < session.transport.backlog ∧
      ((session.transport.unread = transport.unread ∧
        (session.receive now router files sources).2 = { session with transport }) ∨
      ∃ bytes, session.transport.unread = bytes ++ transport.unread ∧ bytes ≠ [] ∧
        (session.request ++ bytes).length ≤ session.headerLimit ∧
        (session.receive now router files sources).2 =
          (session.afterRead now transport bytes).gather router files sources bytes) := by
  rcases Transport.read_cases h (readSize_pos hroom) with
    ⟨hnone, hread | hread⟩ | ⟨transport, hdelivers, hsent, hless,
      ⟨error, htransient, hread, hunread⟩ | ⟨bytes, hne, hlength, hread, hunread⟩⟩
  · exact Or.inl ⟨hnone, receive_of_nil hphase now router files sources hread⟩
  · exact Or.inl ⟨hnone, receive_of_transient hphase now router files sources rfl hread⟩
  · exact Or.inr ⟨transport, hdelivers, hsent, hless, Or.inl
      ⟨hunread, receive_of_transient hphase now router files sources htransient hread⟩⟩
  · exact Or.inr ⟨transport, hdelivers, hsent, hless, Or.inr
      ⟨bytes, hunread, hne, length_append_le hroom hlength,
        receive_of_ok hphase now router files sources hne hread⟩⟩

/-- What was read completes a request. -/
theorem gather_of_some {bytes : Bytes} {e : Nat}
    (hend : Http.headEnd? (session.request ++ bytes) = some e) (router : Router)
    (files : FileSystem) (sources : Registry) :
    session.gather router files sources bytes =
      { session with request := [] }.respond files sources
        (router.route files (.parse ((session.request ++ bytes).take e)) sources.size) := by
  rw [gather]
  simp only [hend]

/-- What was read completes no request, and there is room for more. -/
theorem gather_of_none {bytes : Bytes} (hnone : Http.headEnd? (session.request ++ bytes) = none)
    (hroom : (session.request ++ bytes).length < session.headerLimit) (router : Router)
    (files : FileSystem) (sources : Registry) :
    session.gather router files sources bytes =
      { session with request := session.request ++ bytes } := by
  rw [gather]
  simp only [hnone, if_neg (Nat.not_le.mpr hroom)]

/-- A session that gives an answer does not read. -/
theorem receive_eq_self (hphase : session.phase ≠ .awaitingHeaders) (now : Nat) (router : Router)
    (files : FileSystem) (sources : Registry) :
    (session.receive now router files sources).2 = session := by
  have hwants : session.wantsRead = false := by
    rw [wantsRead]
    cases hphase' : session.phase with
    | awaitingHeaders => exact absurd hphase' hphase
    | draining | streaming | closed => rfl
  rw [receive, hwants]
  rfl

/-- Whatever a session is asked for, it begins with the head of some answer. -/
theorem exists_respond_eq (session : Session) (files : FileSystem) (sources : Registry)
    (route : Route) : ∃ kind head cursor file, session.respond files sources route =
      { session.answering kind head with cursor, file } := by
  cases route with
  | badRequest | authRequired | notFound | streamInfo => exact ⟨_, _, none, none, rfl⟩
  | stream source | still source =>
    rw [respond]
    cases sources.get? source with
    | none => exact ⟨_, _, none, none, rfl⟩
    | some store => exact ⟨_, _, _, none, rfl⟩
  | staticFile path length mediaType =>
    rw [respond]
    cases files.openFile path with
    | error fault => exact ⟨_, _, none, none, rfl⟩
    | ok file => exact ⟨_, _, none, _, rfl⟩

/-- To begin with an answer sends nothing and reads nothing. -/
@[simp]
theorem transport_respond (session : Session) (files : FileSystem) (sources : Registry)
    (route : Route) : (session.respond files sources route).transport = session.transport := by
  obtain ⟨kind, head, cursor, file, heq⟩ := session.exists_respond_eq files sources route
  rw [heq]
  rfl

/-- To gather a request sends nothing. -/
theorem transport_gather (session : Session) (router : Router) (files : FileSystem)
    (sources : Registry) (bytes : Bytes) :
    (session.gather router files sources bytes).transport = session.transport := by
  rw [gather]
  dsimp only
  split
  · exact transport_respond ..
  · split
    · exact transport_respond ..
    · rfl

/-- A session that was asked for a route does not wait for another request. -/
theorem phase_respond_ne (session : Session) (files : FileSystem) (sources : Registry)
    (route : Route) : (session.respond files sources route).phase ≠ .awaitingHeaders := by
  obtain ⟨kind, head, cursor, file, heq⟩ := session.exists_respond_eq files sources route
  rw [heq]
  exact Phase.noConfusion

/-- What was read does not end a session. -/
theorem gather_ne_closed {session : Session} (hphase : session.phase ≠ .closed) (router : Router)
    (files : FileSystem) (sources : Registry) (bytes : Bytes) :
    (session.gather router files sources bytes).phase ≠ .closed := by
  have hrespond (route : Route) :
      ({ session with request := [] }.respond files sources route).phase ≠ .closed := by
    obtain ⟨kind, head, cursor, file, heq⟩ :=
      exists_respond_eq { session with request := [] } files sources route
    rw [heq]
    exact Phase.noConfusion
  rw [gather]
  dsimp only
  split
  · exact hrespond _
  · split
    · exact hrespond _
    · exact hphase

/-- An attempt to read ends a session only if the connection fails. -/
theorem flow_of_receive_closed {session : Session} (hphase : session.phase ≠ .closed) {now : Nat}
    {router : Router} {files : FileSystem} {sources : Registry}
    (h : (session.receive now router files sources).2.phase = .closed) :
    (session.receive now router files sources).1 = .close .transportFailed := by
  rw [receive] at h ⊢
  split at h
  · exact absurd h hphase
  next hwants =>
    rw [if_neg hwants]
    cases hread : session.transport.read session.readSize with
    | mk result transport =>
      rw [hread] at h
      cases result with
      | error error => cases htransient : error.isTransient <;> simp_all [fail]
      | ok bytes =>
        dsimp only at h
        split at h
        · exact absurd h hphase
        · exact absurd h (gather_ne_closed (by exact hphase) _ _ _ _)

end Session

end MotionJpeg
