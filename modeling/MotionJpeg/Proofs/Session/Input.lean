import MotionJpeg.Proofs.Session.Offer
import MotionJpeg.Proofs.Session.Reading

/-!
# Sending leaves the input alone

A session that sends does not read. What has arrived on its connection stays there, and what it has
gathered of a request stays gathered, unless an answer ends and the session starts over.

* `Session.KeepsInput` relates a session to what is left of it.
* `Session.keepsInput_send`: every attempt to send keeps the input.
-/

namespace MotionJpeg

namespace Transport

variable (transport : Transport)

/-- A write reads nothing. -/
@[simp]
theorem arrivals_write (bytes : Slice) :
    (transport.write bytes).2.arrivals = transport.arrivals := by
  have hnext : transport.nextOutcome.2.arrivals = transport.arrivals := by
    rw [nextOutcome]
    cases transport.outcomes <;> rfl
  rw [write, ← hnext]
  obtain ⟨outcome, next⟩ := transport.nextOutcome
  cases outcome <;> rfl

/-- A flush reads nothing. -/
@[simp]
theorem arrivals_flush : transport.flush.2.arrivals = transport.arrivals := by
  rw [flush]
  cases transport.flushErrors <;> rfl

end Transport

namespace Session

/-- The later session has the same bytes to read and the same limit for a request, and has gathered
the same of a request or starts over with none. -/
structure KeepsInput (session next : Session) : Prop where
  arrivals_eq : next.transport.arrivals = session.transport.arrivals
  headerLimit_eq : next.headerLimit = session.headerLimit
  request_eq : next.request = session.request ∨ next.request = []

namespace KeepsInput

variable {session next last : Session}

theorem refl (session : Session) : session.KeepsInput session := ⟨rfl, rfl, Or.inl rfl⟩

theorem trans (h : session.KeepsInput next) (hnext : next.KeepsInput last) :
    session.KeepsInput last where
  arrivals_eq := hnext.arrivals_eq.trans h.arrivals_eq
  headerLimit_eq := hnext.headerLimit_eq.trans h.headerLimit_eq
  request_eq := by
    rcases hnext.request_eq with hsame | hnone
    · exact h.request_eq.imp hsame.trans hsame.trans
    · exact Or.inr hnone

/-- A request of which nothing was gathered stays so. -/
theorem request_eq_nil (h : session.KeepsInput next) (hrequest : session.request = []) :
    next.request = [] :=
  h.request_eq.elim (·.trans hrequest) fun hnone => hnone

end KeepsInput

variable (session : Session) (now : Nat) (files : FileSystem) (sources : Registry)

/-- An attempt to write keeps the input. -/
theorem keepsInput_offer (bytes : Slice) :
    session.KeepsInput (session.offer now bytes).2 := by
  rw [offer]
  cases hwrite : session.transport.write bytes with
  | mk result transport =>
    have harrivals : transport.arrivals = session.transport.arrivals := by
      rw [← session.transport.arrivals_write bytes, hwrite]
    cases result with
    | error error => exact ⟨harrivals, rfl, Or.inl rfl⟩
    | ok count =>
      dsimp only
      split <;> exact ⟨harrivals, rfl, Or.inl rfl⟩

/-- A session that is over keeps the input. -/
theorem keepsInput_finish : session.KeepsInput session.finish.2 := ⟨rfl, rfl, Or.inl rfl⟩

/-- A session that has failed keeps the input. -/
theorem keepsInput_fail : session.KeepsInput session.fail.2 := ⟨rfl, rfl, Or.inl rfl⟩

/-- To begin with an answer keeps the input. -/
theorem keepsInput_respond (route : Route) :
    session.KeepsInput (session.respond files sources route) := by
  obtain ⟨kind, head, cursor, file, heq⟩ := session.exists_respond_eq files sources route
  rw [heq]
  exact ⟨rfl, rfl, Or.inl rfl⟩

/-- To send frames keeps the input. -/
theorem keepsInput_sendFrames : session.KeepsInput (session.sendFrames now sources).2 := by
  rw [sendFrames]
  cases session.cursor with
  | none => exact session.keepsInput_finish
  | some cursor =>
    dsimp only
    cases sources.get? cursor.source with
    | none => exact session.keepsInput_finish
    | some store =>
      dsimp only
      cases (cursor.caughtUp store).unsent? store with
      | none => exact ⟨rfl, rfl, Or.inl rfl⟩
      | some bytes =>
        -- The connection is not even asked to take a part that is complete.
        have hattempt : session.KeepsInput
            (if bytes.isEmpty then (some 0, session) else session.offer now bytes).2 := by
          split
          · exact .refl session
          · exact session.keepsInput_offer now bytes
        dsimp only
        cases (if bytes.isEmpty then (some 0, session) else session.offer now bytes).1 with
        | none => exact hattempt.trans (keepsInput_fail _)
        | some count => exact ⟨hattempt.1, hattempt.2, hattempt.3⟩

/-- To send the frame of a still keeps the input. -/
theorem keepsInput_sendStill : session.KeepsInput (session.sendStill now sources).2 := by
  rw [sendStill]
  dsimp only
  split
  · exact ⟨rfl, rfl, Or.inl rfl⟩
  next cursor bytes _ =>
    have hoffer := session.keepsInput_offer now bytes
    split
    · exact session.keepsInput_finish
    · cases (session.offer now bytes).1 with
      | none => exact hoffer.trans (keepsInput_fail _)
      | some count =>
        dsimp only
        split <;> exact ⟨hoffer.1, hoffer.2, hoffer.3⟩

/-- To send a file keeps the input. At its end the session starts over. -/
theorem keepsInput_sendFile : session.KeepsInput (session.sendFile now files).2 := by
  rw [sendFile]
  cases session.file with
  | none => exact session.keepsInput_finish
  | some file =>
    dsimp only
    cases files.readSome session.chunkSize file with
    | error fault => exact session.keepsInput_fail
    | ok bytes =>
      have hoffer := session.keepsInput_offer now bytes
      dsimp only
      split
      · exact ⟨rfl, rfl, Or.inr rfl⟩
      · cases (session.offer now bytes).1 with
        | none => exact hoffer.trans (keepsInput_fail _)
        | some count => exact ⟨hoffer.1, hoffer.2, hoffer.3⟩

/-- To send what follows a head keeps the input. -/
theorem keepsInput_sendBody (kind : RouteKind) :
    session.KeepsInput (session.sendBody now files sources kind).2 := by
  cases kind with
  | badRequest | authRequired | notFound | streamInfo => exact session.keepsInput_finish
  | still => exact session.keepsInput_sendStill now sources
  | staticFile => exact session.keepsInput_sendFile now files
  | stream =>
    have hframes := keepsInput_sendFrames { session with phase := .streaming } now sources
    exact ⟨hframes.1, hframes.2, hframes.3⟩

/-- To send an answer keeps the input. -/
theorem keepsInput_sendAnswer (kind : RouteKind) :
    session.KeepsInput (session.sendAnswer now files sources kind).2 := by
  rw [sendAnswer]
  split
  · have hoffer := session.keepsInput_offer now (session.response.drop session.responseSent)
    dsimp only
    cases (session.offer now (session.response.drop session.responseSent)).1 with
    | none => exact hoffer.trans (keepsInput_fail _)
    | some count =>
      dsimp only
      split
      · exact ⟨hoffer.1, hoffer.2, hoffer.3⟩
      · refine KeepsInput.trans ?_ (keepsInput_sendBody _ now files sources kind)
        exact ⟨hoffer.1, hoffer.2, hoffer.3⟩
  · exact session.keepsInput_sendBody now files sources kind

/-- Every attempt to send keeps the input. -/
theorem keepsInput_send : session.KeepsInput (session.send now files sources).2 := by
  have hflush : session.KeepsInput { session with transport := session.transport.flush.2 } :=
    ⟨session.transport.arrivals_flush, rfl, Or.inl rfl⟩
  by_cases hfails : Transport.FailsHard session.transport.flush.1
  · rw [session.send_eq_fail now files sources hfails]
    exact hflush.trans (keepsInput_fail _)
  · rw [session.send_eq_sendPhase now files sources hfails]
    refine hflush.trans ?_
    rw [sendPhase]
    split
    · exact .refl _
    · exact .refl _
    · exact keepsInput_sendFrames _ now sources
    · exact keepsInput_sendAnswer _ now files sources _

end Session

end MotionJpeg
