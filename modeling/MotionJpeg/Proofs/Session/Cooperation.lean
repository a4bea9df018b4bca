import MotionJpeg.Proofs.Answer.Outcome
import MotionJpeg.Proofs.Session.Readiness

/-!
# Connections that take something

A connection that takes at least one byte of every write, and whose flushes do not fail for good,
stays so, whatever a session sends. No attempt to send fails on it.

* `Transport.Cooperates` is such a connection.
* `Transport.Keeps` and `Session.keeps_send`: what flushes and writes keep of a connection is kept
  by every attempt to send.
* `Session.exists_offer`: what is offered is sent in part at least.
* `Session.not_connectionFails`: nothing fails for good.
-/

namespace MotionJpeg

namespace Transport

/-- Every write takes at least one byte, and a flush fails for a while at most. -/
structure Cooperates (transport : Transport) : Prop where
  acceptsSome : transport.AcceptsSome
  isTransient : ∀ error ∈ transport.flushErrors, error.isTransient = true

/-- What is true of a connection stays so when it is flushed and when it is written to. -/
structure Keeps (P : Transport → Prop) : Prop where
  flush : ∀ {transport : Transport}, P transport → P transport.flush.2
  write : ∀ {transport : Transport} (bytes : Slice), P transport → P (transport.write bytes).2

/-- A write changes nothing but what was sent and how the writes after it end. -/
theorem exists_write_eq (transport : Transport) (bytes : Slice) : ∃ pieces,
    (transport.write bytes).2 =
      { transport with outcomes := transport.outcomes.tail, pieces } := by
  obtain ⟨arrivals, hasEnded, outcomes, usualOutcome, flushErrors, pieces⟩ := transport
  cases outcomes with
  | nil => cases usualOutcome <;> exact ⟨_, rfl⟩
  | cons outcome rest => cases outcome <;> exact ⟨_, rfl⟩

/-- A connection that takes something goes on with it. -/
theorem keeps_cooperates : Keeps Cooperates where
  flush {transport} h := by
    refine ⟨h.acceptsSome.flush, ?_⟩
    rw [transport.flush_eq]
    exact fun error hmem => h.isTransient error (List.mem_of_mem_tail hmem)
  write {transport} bytes h := by
    obtain ⟨pieces, heq⟩ := transport.exists_write_eq bytes
    rw [heq]
    refine ⟨fun outcome hmem => h.acceptsSome outcome ?_, h.isTransient⟩
    rcases List.mem_cons.mp hmem with rfl | hrest
    · exact List.mem_cons_self
    · exact List.mem_cons_of_mem _ (List.mem_of_mem_tail hrest)

namespace Cooperates

variable {transport : Transport} (h : transport.Cooperates)

include h

theorem not_failsHard_flush : ¬ FailsHard transport.flush.1 := by
  rw [Transport.flush]
  cases herrors : transport.flushErrors with
  | nil => exact not_failsHard_ok ()
  | cons error rest =>
    have hmem : error ∈ transport.flushErrors := by
      rw [herrors]
      exact List.mem_cons_self
    simp [failsHard_error_iff, h.isTransient error hmem]

theorem not_failsHard_write {bytes : Slice} (hbytes : bytes.isEmpty = false) :
    ¬ FailsHard (transport.write bytes).1 := by
  obtain ⟨count, hcount, -⟩ := h.acceptsSome.exists_write_eq_ok hbytes
  rw [hcount]
  exact not_failsHard_ok count

end Cooperates

end Transport

namespace Session

/-- An attempt to write leaves the connection as the write does. -/
theorem transport_offer (session : Session) (now : Nat) (bytes : Slice) :
    (session.offer now bytes).2.transport = (session.transport.write bytes).2 := by
  rw [offer]
  obtain ⟨result, transport⟩ := session.transport.write bytes
  cases result with
  | error error => rfl
  | ok count =>
    dsimp only
    split <;> rfl

section Keeps

variable {P : Transport → Prop} (hkeeps : Transport.Keeps P) {session : Session}
  (h : P session.transport) (now : Nat)

include hkeeps h

theorem keeps_offer (bytes : Slice) : P (session.offer now bytes).2.transport := by
  rw [session.transport_offer now bytes]
  exact hkeeps.write bytes h

theorem keeps_sendFrames (sources : Registry) :
    P (session.sendFrames now sources).2.transport := by
  rw [sendFrames]
  cases session.cursor with
  | none => exact h
  | some cursor =>
    dsimp only
    cases sources.get? cursor.source with
    | none => exact h
    | some store =>
      dsimp only
      cases (cursor.caughtUp store).unsent? store with
      | none => exact h
      | some bytes =>
        have hattempt : P (if bytes.isEmpty then (some 0, session)
            else session.offer now bytes).2.transport := by
          split
          · exact h
          · exact keeps_offer hkeeps h now bytes
        dsimp only
        cases (if bytes.isEmpty then (some 0, session) else session.offer now bytes).1 with
        | none => exact hattempt
        | some count => exact hattempt

theorem keeps_sendStill (sources : Registry) : P (session.sendStill now sources).2.transport := by
  rw [sendStill]
  dsimp only
  split
  · exact h
  next cursor bytes _ =>
    have hoffer := keeps_offer hkeeps h now bytes
    split
    · exact h
    · cases (session.offer now bytes).1 with
      | none => exact hoffer
      | some count =>
        dsimp only
        split <;> exact hoffer

variable (files : FileSystem)

theorem keeps_sendFile : P (session.sendFile now files).2.transport := by
  rw [sendFile]
  cases session.file with
  | none => exact h
  | some file =>
    dsimp only
    cases files.readSome session.chunkSize file with
    | error fault => exact h
    | ok bytes =>
      have hoffer := keeps_offer hkeeps h now bytes
      dsimp only
      split
      · exact h
      · cases (session.offer now bytes).1 with
        | none => exact hoffer
        | some count => exact hoffer

variable (sources : Registry)

theorem keeps_sendBody (kind : RouteKind) :
    P (session.sendBody now files sources kind).2.transport := by
  cases kind with
  | badRequest | authRequired | notFound | streamInfo => exact h
  | still => exact keeps_sendStill hkeeps h now sources
  | staticFile => exact keeps_sendFile hkeeps h now files
  | stream => exact keeps_sendFrames hkeeps (by exact h) now sources

theorem keeps_sendAnswer (kind : RouteKind) :
    P (session.sendAnswer now files sources kind).2.transport := by
  rw [sendAnswer]
  split
  · have hoffer := keeps_offer hkeeps h now (session.response.drop session.responseSent)
    dsimp only
    cases (session.offer now (session.response.drop session.responseSent)).1 with
    | none => exact hoffer
    | some count =>
      dsimp only
      split
      · exact hoffer
      · exact keeps_sendBody hkeeps (by exact hoffer) now files sources kind
  · exact keeps_sendBody hkeeps h now files sources kind

/-- What flushes and writes keep of a connection is kept by an attempt to send. -/
theorem keeps_send : P (session.send now files sources).2.transport := by
  have hflushed := hkeeps.flush h
  by_cases hfails : Transport.FailsHard session.transport.flush.1
  · rw [session.send_eq_fail now files sources hfails]
    exact hflushed
  · rw [session.send_eq_sendPhase now files sources hfails, sendPhase]
    split
    · exact hflushed
    · exact hflushed
    · exact keeps_sendFrames hkeeps (by exact hflushed) now sources
    · exact keeps_sendAnswer hkeeps (by exact hflushed) now files sources _

end Keeps

variable {session : Session} (h : session.transport.Cooperates) (now : Nat)

include h

/-- What is offered is sent in part at least, and the connection goes on to take something. -/
theorem exists_offer {bytes : Slice} (hbytes : bytes.isEmpty = false) :
    ∃ count transport, 0 < count ∧ count ≤ bytes.length ∧ transport.Cooperates ∧
      transport.sent = session.transport.sent ++ bytes.toBytes.take count ∧
      session.offer now bytes = (some count, session.afterWrite now transport count) := by
  obtain ⟨count, transport, hpos, hle, hsent, hoffer⟩ :=
    offer_of_acceptsSome now h.acceptsSome hbytes
  have hcooperates := keeps_offer Transport.keeps_cooperates h now bytes
  rw [hoffer] at hcooperates
  exact ⟨count, transport, hpos, hle, hcooperates, hsent, hoffer⟩

variable (files : FileSystem) (sources : Registry) (kind : RouteKind)

/-- Something of the head is sent as long as it is not out, and the body is looked for in the same
event if nothing of the head is left. -/
theorem exists_sendAnswer (hleft : session.responseSent < session.response.length) :
    ∃ count transport, 0 < count ∧ transport.Cooperates ∧
      session.sendAnswer now files sources kind =
        if session.responseSent + count < session.response.length then
          (.keep, session.afterHead now transport count)
        else (session.afterHead now transport count).sendBody now files sources kind := by
  obtain ⟨count, transport, hpos, -, hcooperates, -, hoffer⟩ :=
    exists_offer h now (Slice.isEmpty_drop_of_lt hleft)
  refine ⟨count, transport, hpos, hcooperates, ?_⟩
  rw [sendAnswer, if_pos hleft, hoffer]
  rfl

theorem not_bodyFails : ¬ session.BodyFails files sources kind := by
  rintro ⟨bytes, -, hbytes, hfails⟩
  exact h.not_failsHard_write hbytes hfails

/-- Nothing fails for good. -/
theorem not_connectionFails : ¬ session.ConnectionFails now files sources kind := by
  let flushed : Session := { session with transport := session.transport.flush.2 }
  have hflushed : flushed.transport.Cooperates := Transport.keeps_cooperates.flush h
  rintro (hfails | hfails)
  · exact h.not_failsHard_flush hfails
  · change flushed.AnswerFails now files sources kind at hfails
    rw [AnswerFails] at hfails
    split at hfails
    next hleft =>
      rcases hfails with hfails | ⟨count, next, hoffer, -, hfails⟩
      · exact hflushed.not_failsHard_write (Slice.isEmpty_drop_of_lt hleft) hfails
      · have hcooperates := keeps_offer Transport.keeps_cooperates hflushed now
          (flushed.response.drop flushed.responseSent)
        rw [hoffer] at hcooperates
        exact not_bodyFails hcooperates files sources kind hfails
    next => exact not_bodyFails hflushed files sources kind hfails

end Session

end MotionJpeg
