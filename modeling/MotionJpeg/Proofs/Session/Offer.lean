import MotionJpeg.Session.Send

/-!
# Single attempts to send

Everything that a session sends goes through `Session.offer`, and nothing is sent before the
connection was flushed. Whatever the connection does, an attempt comes to one of two ends: it
fails for good, or some bytes at the front of the offer are sent, perhaps none.

* `Transport.FailsHard`: an attempt failed for good.
* `Session.offer_cases`: the two ends of an attempt to write.
* `Session.send_eq_fail` and `Session.send_eq_sendPhase`: the two ends of a flush.
-/

namespace MotionJpeg

namespace Transport

/-- The result of an attempt that no later attempt can mend. -/
def FailsHard {α : Type} (result : Except TransportError α) : Prop :=
  ∃ error, result = .error error ∧ error.isTransient = false

theorem failsHard_error_iff {α : Type} (error : TransportError) :
    FailsHard (.error error : Except TransportError α) ↔ error.isTransient = false := by
  simp [FailsHard]

theorem not_failsHard_ok {α : Type} (a : α) : ¬ FailsHard (.ok a : Except TransportError α) := by
  simp [FailsHard]

variable (transport : Transport)

/-- The peer has what it was given before and the new bytes. -/
@[simp]
theorem sent_give (bytes : Bytes) : (transport.give bytes).sent = transport.sent ++ bytes := by
  simp [give, sent]

/-- A flush gives the peer nothing. -/
@[simp]
theorem sent_flush : transport.flush.2.sent = transport.sent := by
  rw [flush]
  cases transport.flushErrors <;> rfl

/-- To look up how a write ends gives the peer nothing. -/
@[simp]
theorem sent_nextOutcome : transport.nextOutcome.2.sent = transport.sent := by
  rw [nextOutcome]
  cases transport.outcomes <;> rfl

/-- A write fails and gives the peer nothing, or it gives the bytes at the front of the offer. -/
theorem write_cases (bytes : Slice) :
    (∃ error next, transport.write bytes = (.error error, next) ∧ next.sent = transport.sent) ∨
    ∃ count next, transport.write bytes = (.ok count, next) ∧ count ≤ bytes.length ∧
      next.sent = transport.sent ++ bytes.toBytes.take count := by
  rw [write, ← transport.sent_nextOutcome]
  obtain ⟨outcome, next⟩ := transport.nextOutcome
  -- Only a failure gives nothing. A write that takes no byte gives an empty front.
  cases outcome with
  | all =>
    refine Or.inr ⟨_, _, rfl, Nat.le_refl _, ?_⟩
    rw [sent_give, ← Slice.length_toBytes, List.take_length]
  | upTo limit =>
    refine Or.inr ⟨_, _, rfl, Nat.min_le_right _ _, ?_⟩
    rw [sent_give, Slice.toBytes_take, ← Slice.length_toBytes, List.take_eq_take_min]
  | failure error => exact Or.inl ⟨error, next, rfl, rfl⟩

end Transport

namespace Session

variable (session : Session) (now : Nat)

/-- The session after the connection took `count` bytes. -/
def afterWrite (transport : Transport) (count : Nat) : Session :=
  { session with
    transport
    lastActivity := if count = 0 then session.lastActivity else now
    stats.bytesSent := session.stats.bytesSent + count }

/-- An attempt to write fails for good, or the front of the offer is sent and counted. -/
theorem offer_cases (bytes : Slice) :
    (Transport.FailsHard (session.transport.write bytes).1 ∧
      ∃ transport, transport.sent = session.transport.sent ∧
        session.offer now bytes = (none, { session with transport })) ∨
    (¬ Transport.FailsHard (session.transport.write bytes).1 ∧
      ∃ count transport, count ≤ bytes.length ∧
        transport.sent = session.transport.sent ++ bytes.toBytes.take count ∧
        session.offer now bytes = (some count, session.afterWrite now transport count)) := by
  rw [offer]
  rcases session.transport.write_cases bytes with
    ⟨error, next, hwrite, hsent⟩ | ⟨count, next, hwrite, hcount, hsent⟩
  · rw [hwrite, Transport.failsHard_error_iff]
    cases htransient : error.isTransient with
    | false => exact Or.inl ⟨rfl, next, hsent, by simp [htransient]⟩
    -- A delay counts as a write that took nothing.
    | true =>
      refine Or.inr ⟨by simp, 0, next, Nat.zero_le _, by simpa using hsent, ?_⟩
      simp [htransient, afterWrite]
  · rw [hwrite]
    refine Or.inr ⟨Transport.not_failsHard_ok count, count, next, hcount, hsent, ?_⟩
    by_cases hzero : count = 0 <;> simp [hzero, afterWrite]

variable (files : FileSystem) (sources : Registry)

theorem sendPhase_of_draining {kind : RouteKind} (h : session.phase = .draining kind) :
    session.sendPhase now files sources = session.sendAnswer now files sources kind := by
  rw [sendPhase, h]

theorem sendPhase_of_streaming (h : session.phase = .streaming) :
    session.sendPhase now files sources = session.sendFrames now sources := by
  rw [sendPhase, h]

theorem sendPhase_of_closed (h : session.phase = .closed) :
    session.sendPhase now files sources = (.close .responseComplete, session) := by
  rw [sendPhase, h]

theorem sendPhase_of_awaitingHeaders (h : session.phase = .awaitingHeaders) :
    session.sendPhase now files sources = (.keep, session) := by
  rw [sendPhase, h]

/-- A session whose connection cannot be flushed any more is over. -/
theorem send_eq_fail (h : Transport.FailsHard session.transport.flush.1) :
    session.send now files sources =
      { session with transport := session.transport.flush.2 }.fail := by
  obtain ⟨error, herror, htransient⟩ := h
  rw [send]
  simp only [herror, htransient]
  rfl

/-- After any other flush a session goes on with its answer. -/
theorem send_eq_sendPhase (h : ¬ Transport.FailsHard session.transport.flush.1) :
    session.send now files sources =
      { session with transport := session.transport.flush.2 }.sendPhase now files sources := by
  rw [send]
  cases hflush : session.transport.flush.1 with
  | ok flushed => simp only [hflush]
  | error error =>
    rw [hflush, Transport.failsHard_error_iff, Bool.not_eq_false] at h
    simp only [hflush, h, if_true]

/-- A session that is over stays so and sends nothing. -/
theorem send_of_closed (h : session.phase = .closed) :
    (session.send now files sources).2.phase = .closed ∧
      (session.send now files sources).2.transport.sent = session.transport.sent := by
  by_cases hfails : Transport.FailsHard session.transport.flush.1
  · rw [session.send_eq_fail now files sources hfails]
    exact ⟨rfl, session.transport.sent_flush⟩
  · rw [session.send_eq_sendPhase now files sources hfails, sendPhase_of_closed]
    · exact ⟨h, session.transport.sent_flush⟩
    · exact h

end Session

end MotionJpeg
