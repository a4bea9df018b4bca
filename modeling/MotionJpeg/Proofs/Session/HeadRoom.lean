import MotionJpeg.Proofs.Bytes.Search
import MotionJpeg.Proofs.Session.Input

/-!
# Room for the head of a request

A read that brings no bytes is how a connection tells that its peer has hung up, and it is also what
comes of a read that asks for none. A session can take the one for the other unless it asks for a
byte at least whenever it reads.

* `Session.Reachable` are the sessions that calls in any order come to.
* `Session.HasRoom` is what all calls keep: a request that is being gathered is shorter than the
  limit and not complete.
* `Session.reading` tells an attempt to receive by the reads that it makes, and
  `Session.receive_eq_reading`: it makes no others.
* `Session.Reachable.reads_have_room`: no read asks for nothing, and only a connection that has
  ended closes a session as one that its peer has closed.
-/

namespace MotionJpeg

/-- A procedure that reads from a connection before it comes to a result. -/
inductive ReadProcedure (Result : Type) where
  | done (result : Result)
  /-- Asks for at most this many bytes, and goes on with what comes of that. -/
  | ask (room : Nat) (next : Except TransportError Bytes → ReadProcedure Result)

/-- One read of a connection. -/
structure ReadAttempt where
  /-- How many bytes there was room for. -/
  room : Nat
  result : Except TransportError Bytes

namespace ReadProcedure

variable {Result : Type}

/-- The result that a procedure comes to over a connection, and what is left of that. -/
def run : ReadProcedure Result → Transport → Result × Transport
  | done result, transport => (result, transport)
  | ask room next, transport => (next (transport.read room).1).run (transport.read room).2

/-- The reads that a procedure makes of a connection. -/
def attempts : ReadProcedure Result → Transport → List ReadAttempt
  | done _, _ => []
  | ask room next, transport =>
    ⟨room, (transport.read room).1⟩ ::
      (next (transport.read room).1).attempts (transport.read room).2

end ReadProcedure

namespace Session

/-- The sessions that come of a new one with these limits by calls in any order, whatever the
connection does between two calls. -/
inductive Reachable (headerLimit chunkSize : Nat) : Session → Prop where
  | new (id : Nat) (peer : SocketAddress) (transport : Transport) (now : Nat) :
      Reachable headerLimit chunkSize (.new id peer transport headerLimit chunkSize now)
  /-- From here on the connection behaves like `future`. -/
  | network {session : Session} (future : Transport)
      (h : Reachable headerLimit chunkSize session) :
      Reachable headerLimit chunkSize { session with transport := future }
  | receive {session : Session} (now : Nat) (router : Router) (files : FileSystem)
      (sources : Registry) (h : Reachable headerLimit chunkSize session) :
      Reachable headerLimit chunkSize (session.receive now router files sources).2
  | send {session : Session} (now : Nat) (files : FileSystem) (sources : Registry)
      (h : Reachable headerLimit chunkSize session) :
      Reachable headerLimit chunkSize (session.send now files sources).2
  | begin {session : Session} (files : FileSystem) (sources : Registry) (route : Route)
      (h : Reachable headerLimit chunkSize session) :
      Reachable headerLimit chunkSize (session.respond files sources route)
  | reset {session : Session} (h : Reachable headerLimit chunkSize session) :
      Reachable headerLimit chunkSize session.reset

/-- The request that is being gathered is shorter than the limit, and its blank line is yet to
come. -/
structure HasRoom (session : Session) (limit : Nat) : Prop where
  headerLimit_eq : session.headerLimit = limit
  length_lt : session.request.length < limit
  isIncomplete : Http.headEnd? session.request = none

section HasRoom

variable {session next : Session} {limit : Nat}

/-- A session that has gathered nothing has room for a request. -/
theorem hasRoom_of_nil (hlimit : session.headerLimit = limit) (hrequest : session.request = []) :
    session.HasRoom limit where
  headerLimit_eq := hlimit
  length_lt := by
    have hmin := session.minHeaderLimit_le
    rw [hlimit] at hmin
    rw [hrequest]
    exact Nat.lt_of_lt_of_le (by decide) hmin
  isIncomplete := by
    rw [hrequest]
    rfl

namespace HasRoom

/-- What keeps the input keeps the room for it. -/
theorem keep (h : session.HasRoom limit) (hkeeps : session.KeepsInput next) :
    next.HasRoom limit := by
  have hlimit : next.headerLimit = limit := hkeeps.headerLimit_eq.trans h.headerLimit_eq
  rcases hkeeps.request_eq with hsame | hnone
  · refine ⟨hlimit, ?_, ?_⟩
    · rw [hsame]
      exact h.length_lt
    · rw [hsame]
      exact h.isIncomplete
  · exact hasRoom_of_nil hlimit hnone

/-- What was read is kept only if it leaves room for more. A request that is complete or too long
is answered, and then nothing is left of it. -/
theorem gather (h : session.HasRoom limit) (router : Router) (files : FileSystem)
    (sources : Registry) (bytes : Bytes) :
    (session.gather router files sources bytes).HasRoom limit := by
  have hrespond (route : Route) :
      ({ session with request := [] }.respond files sources route).HasRoom limit := by
    have hempty : HasRoom { session with request := [] } limit :=
      hasRoom_of_nil h.headerLimit_eq rfl
    exact hempty.keep (keepsInput_respond _ files sources route)
  rw [Session.gather]
  dsimp only
  split
  · exact hrespond _
  next hnone =>
    -- The limit is looked at after the blank line, and what passes both tests is kept.
    split
    · exact hrespond _
    next hlength =>
      refine ⟨h.headerLimit_eq, ?_, hnone⟩
      rw [← h.headerLimit_eq]
      exact Nat.not_le.mp hlength

/-- An attempt to read leaves room for the next one. -/
theorem receive (h : session.HasRoom limit) (now : Nat) (router : Router) (files : FileSystem)
    (sources : Registry) : (session.receive now router files sources).2.HasRoom limit := by
  have htransport (transport : Transport) : HasRoom { session with transport } limit :=
    ⟨h.headerLimit_eq, h.length_lt, h.isIncomplete⟩
  rw [Session.receive]
  split
  · exact h
  · cases session.transport.read session.readSize with
    | mk result transport =>
      cases result with
      | error error =>
        dsimp only
        split
        · exact htransport transport
        · exact (htransport transport).keep (keepsInput_fail _)
      | ok bytes =>
        dsimp only
        split
        · exact htransport transport
        · apply gather
          exact ⟨h.headerLimit_eq, h.length_lt, h.isIncomplete⟩

/-- As long as there is room something is asked for, and no more than there is room for. -/
theorem readSize_bounds (h : session.HasRoom limit) :
    0 < session.readSize ∧ session.readSize ≤ limit - session.request.length := by
  have hroom := h.length_lt
  rw [← h.headerLimit_eq] at hroom ⊢
  exact ⟨readSize_pos hroom, Nat.min_le_left _ _⟩

end HasRoom

/-- Whatever the calls, there is room for the request that is being gathered. -/
theorem Reachable.hasRoom {headerLimit chunkSize : Nat}
    (h : Reachable headerLimit chunkSize session) :
    session.HasRoom (max headerLimit minHeaderLimit) := by
  induction h with
  | new => exact hasRoom_of_nil rfl rfl
  | network future _ ih => exact ⟨ih.headerLimit_eq, ih.length_lt, ih.isIncomplete⟩
  | receive now router files sources _ ih => exact ih.receive now router files sources
  | send now files sources _ ih => exact ih.keep (keepsInput_send _ now files sources)
  | begin files sources route _ ih => exact ih.keep (keepsInput_respond _ files sources route)
  | reset _ ih => exact hasRoom_of_nil ih.headerLimit_eq rfl

end HasRoom

section Reading

variable (session : Session) (now : Nat) (router : Router) (files : FileSystem) (sources : Registry)

/-- What a session does on a readable connection, told by its reads. The result is for the
connection that is left after them. -/
def reading : ReadProcedure (Transport → Flow × Session) :=
  if session.wantsRead then
    .ask session.readSize fun result => .done fun transport =>
      match result with
      | .error error =>
        if error.isTransient then (.keep, { session with transport })
        else { session with transport }.fail
      | .ok bytes =>
        if bytes.isEmpty then (.close .peerClosed, { session with transport })
        else (.keep, (session.afterRead now transport bytes).gather router files sources bytes)
  else .done fun transport => (.keep, { session with transport })

/-- An attempt to receive is made of these reads. -/
theorem receive_eq_reading : session.receive now router files sources =
    let outcome := (session.reading now router files sources).run session.transport
    outcome.1 outcome.2 := by
  rw [receive, reading]
  cases session.wantsRead with
  | false => rfl
  | true =>
    simp only [Bool.not_true, Bool.false_eq_true, if_false, if_true, ReadProcedure.run]
    cases (session.transport.read session.readSize).1 with
    | error error => rfl
    | ok bytes => rfl

/-- A readable session makes one read if it waits for a request, and else none. -/
theorem attempts_reading : (session.reading now router files sources).attempts session.transport =
    if session.wantsRead then
      [⟨session.readSize, (session.transport.read session.readSize).1⟩] else [] := by
  rw [reading]
  split <;> rfl

/-- That the peer has hung up is told exactly if a read brings no bytes. -/
theorem receive_peerClosed_iff :
    (session.receive now router files sources).1 = .close .peerClosed ↔
      ∃ attempt ∈ (session.reading now router files sources).attempts session.transport,
        attempt.result = .ok [] := by
  rw [attempts_reading, receive]
  cases session.wantsRead with
  | false => simp
  | true =>
    simp only [Bool.not_true, Bool.false_eq_true, if_false, if_true, List.mem_singleton,
      exists_eq_left]
    cases (session.transport.read session.readSize).1 with
    | error error => cases htransient : error.isTransient <;> simp [htransient, fail]
    | ok bytes => cases bytes <;> simp

end Reading

section Send

variable (session : Session) (now : Nat) (files : FileSystem) (sources : Registry)

theorem finish_ne_peerClosed : session.finish.1 ≠ .close .peerClosed := by
  simp [finish]

theorem fail_ne_peerClosed : session.fail.1 ≠ .close .peerClosed := by
  simp [fail]

/-- To send frames does not show that the peer has hung up. -/
theorem sendFrames_ne_peerClosed : (session.sendFrames now sources).1 ≠ .close .peerClosed := by
  rw [sendFrames]
  split
  · exact session.finish_ne_peerClosed
  · split
    · exact session.finish_ne_peerClosed
    · dsimp only
      split
      · exact Flow.noConfusion
      · split
        · exact fail_ne_peerClosed _
        · exact Flow.noConfusion

/-- To send the frame of a still does not show it. -/
theorem sendStill_ne_peerClosed : (session.sendStill now sources).1 ≠ .close .peerClosed := by
  rw [sendStill]
  dsimp only
  split
  · simp
  · split
    · exact session.finish_ne_peerClosed
    · split
      · exact fail_ne_peerClosed _
      · split
        · exact Flow.noConfusion
        · exact finish_ne_peerClosed _

/-- To send a file does not show it. -/
theorem sendFile_ne_peerClosed : (session.sendFile now files).1 ≠ .close .peerClosed := by
  rw [sendFile]
  split
  · exact session.finish_ne_peerClosed
  · split
    · exact session.fail_ne_peerClosed
    · split
      · exact Flow.noConfusion
      · dsimp only
        split
        · exact fail_ne_peerClosed _
        · exact Flow.noConfusion

/-- What follows the head of an answer does not show it. -/
theorem sendBody_ne_peerClosed (kind : RouteKind) :
    (session.sendBody now files sources kind).1 ≠ .close .peerClosed := by
  cases kind with
  | badRequest | authRequired | notFound | streamInfo => exact session.finish_ne_peerClosed
  | still => exact session.sendStill_ne_peerClosed now sources
  | staticFile => exact session.sendFile_ne_peerClosed now files
  | stream => exact sendFrames_ne_peerClosed _ now sources

/-- An attempt to send never shows that the peer has hung up. -/
theorem send_ne_peerClosed : (session.send now files sources).1 ≠ .close .peerClosed := by
  by_cases hfails : Transport.FailsHard session.transport.flush.1
  · rw [session.send_eq_fail now files sources hfails]
    exact fail_ne_peerClosed _
  · rw [session.send_eq_sendPhase now files sources hfails, sendPhase]
    split
    · exact Flow.noConfusion
    · simp
    · exact sendFrames_ne_peerClosed _ now sources
    · rw [sendAnswer]
      split
      · dsimp only
        split
        · exact fail_ne_peerClosed _
        · split
          · exact Flow.noConfusion
          · exact sendBody_ne_peerClosed _ now files sources _
      · exact sendBody_ne_peerClosed _ now files sources _

end Send

/-- After any calls, whatever the limits, the connection and the stores, a request that is being
gathered is shorter than the limit and has no blank line. So every read of an attempt to receive has
room for a byte at least, and for no more than the limit leaves. That the peer has hung up is told
exactly if such a read brings nothing, and never by an attempt to send. -/
theorem Reachable.reads_have_room {headerLimit chunkSize : Nat} {session : Session}
    (h : Reachable headerLimit chunkSize session) :
    session.request.length < max headerLimit 4 ∧ ¬ Http.blankLine <:+: session.request ∧
    ∀ now router files sources,
      let reading := session.reading now router files sources
      let outcome := reading.run session.transport
      let attempts := reading.attempts session.transport
      session.receive now router files sources = outcome.1 outcome.2 ∧
      (∀ attempt ∈ attempts,
        1 ≤ attempt.room ∧ attempt.room ≤ max headerLimit 4 - session.request.length) ∧
      ((session.receive now router files sources).1 = .close .peerClosed ↔
        ∃ attempt ∈ attempts, attempt.result = .ok []) ∧
      (session.send now files sources).1 ≠ .close .peerClosed := by
  have hroom : session.HasRoom (max headerLimit 4) := h.hasRoom
  refine ⟨hroom.length_lt, ?_, ?_⟩
  · rw [Bytes.isInfix_iff_exists_occursAt, not_exists]
    exact Bytes.search?_eq_none_iff.mp hroom.isIncomplete
  · intro now router files sources reading outcome attempts
    refine ⟨session.receive_eq_reading now router files sources, ?_,
      session.receive_peerClosed_iff now router files sources,
      session.send_ne_peerClosed now files sources⟩
    intro attempt hattempt
    -- There is one read at most, and its size is the one that the limit leaves.
    have hattempts := session.attempts_reading now router files sources
    rw [show attempts = _ from hattempts] at hattempt
    split at hattempt
    · rw [List.mem_singleton.mp hattempt]
      exact hroom.readSize_bounds
    · exact absurd hattempt List.not_mem_nil

section AlmostFull

/-- A connection that brings more than fits, and then ends. -/
def longRequest : Transport where
  arrivals := [.data (.ofString "GET /")]
  hasEnded := true

/-- A session whose limits are both zero, after three attempts to receive. -/
def almostFull : Session :=
  let receive (session : Session) : Session :=
    (session.receive 1 {} {} ⟨[], 640, 480⟩).2
  receive (receive (receive (.new 1 (.v4 .loopback 5000) longRequest 0 0 0)))

/-- The last byte before the limit is asked for, and what the read brings is not taken for the
end. -/
theorem reads_have_room_almostFull :
    Reachable 0 0 almostFull ∧ almostFull.request = .ofString "GET" ∧
    almostFull.request.length < max 0 4 ∧ ¬ Http.blankLine <:+: almostFull.request ∧
    ∀ now router files sources,
      let reading := almostFull.reading now router files sources
      let outcome := reading.run almostFull.transport
      let attempts := reading.attempts almostFull.transport
      almostFull.receive now router files sources = outcome.1 outcome.2 ∧
      (∀ attempt ∈ attempts,
        1 ≤ attempt.room ∧ attempt.room ≤ max 0 4 - almostFull.request.length) ∧
      ((almostFull.receive now router files sources).1 = .close .peerClosed ↔
        ∃ attempt ∈ attempts, attempt.result = .ok []) ∧
      (almostFull.send now files sources).1 ≠ .close .peerClosed := by
  have hreachable : Reachable 0 0 almostFull :=
    .receive _ _ _ _ (.receive _ _ _ _ (.receive _ _ _ _ (.new _ _ _ _)))
  exact ⟨hreachable, by decide +kernel, hreachable.reads_have_room⟩

end AlmostFull

end Session

end MotionJpeg
