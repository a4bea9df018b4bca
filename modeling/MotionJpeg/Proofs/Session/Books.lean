import MotionJpeg.Proofs.Session.Offer
import MotionJpeg.Proofs.Session.Reading

/-!
# The books of a session

A session counts the bytes that it moves and the answers that it completes. An event of a writable
connection may come to two writes and to any of several ends, and whichever it is, everything is
counted once and a write that fails is not counted at all.

* `Session.SameClient` is what no event changes about a session.
* `Session.Books` says how the counters fit what came of an event.
* `Session.Refused` is about an event whose last write failed.
* `Session.books_send`: the books are kept by every attempt to send.
-/

namespace MotionJpeg

namespace Transport

variable (transport : Transport)

/-- A write uses up the way in which it ends. -/
theorem outcomes_write (bytes : Slice) :
    (transport.write bytes).2.outcomes = transport.outcomes.tail := by
  have hnext : transport.nextOutcome.2.outcomes = transport.outcomes.tail := by
    rw [nextOutcome]
    cases houtcomes : transport.outcomes with
    | nil => exact houtcomes
    | cons outcome rest => rfl
  rw [write, ← hnext]
  obtain ⟨outcome, next⟩ := transport.nextOutcome
  cases outcome <;> rfl

/-- What a read brings comes from the front of the unread bytes, and a read that fails brings
nothing. -/
theorem unread_read (limit : Nat) : transport.unread =
    (transport.read limit).1.toOption.getD [] ++ (transport.read limit).2.unread := by
  rw [read]
  cases harrivals : transport.arrivals with
  | nil =>
    dsimp only
    split <;> rfl
  | cons arrival rest =>
    cases arrival with
    | failure error => simp [unread, harrivals, Except.toOption]
    | data bytes =>
      dsimp only
      by_cases hleft : bytes.drop limit = []
      · have hall : bytes.take limit = bytes :=
          List.take_of_length_le (List.drop_eq_nil_iff.mp hleft)
        simp [unread, harrivals, hleft, hall, Except.toOption]
      · simp [unread, harrivals, hleft, Except.toOption, ← List.append_assoc]

/-- A flush is no write. -/
theorem outcomes_flush : transport.flush.2.outcomes = transport.outcomes := by
  rw [flush]
  cases transport.flushErrors <;> rfl

end Transport

/-- No frame is complete before something of it was sent. -/
theorem Cursor.advance_zero (cursor : Cursor) (store : Store) :
    (cursor.advance store 0).1 = false := by
  rw [advance]
  split <;> simp

/-- The counters, but for the bytes that were sent. -/
def SessionStats.withSent (stats : SessionStats) (bytesSent : Nat) : SessionStats :=
  { stats with bytesSent }

namespace Session

/-- Both sessions are those of one client: number, address and limits are the same. -/
structure SameClient (session next : Session) : Prop where
  id_eq : next.id = session.id
  peer_eq : next.peer = session.peer
  headerLimit_eq : next.headerLimit = session.headerLimit
  chunkSize_eq : next.chunkSize = session.chunkSize

namespace SameClient

theorem refl (session : Session) : session.SameClient session := ⟨rfl, rfl, rfl, rfl⟩

theorem trans {session next last : Session} (h : session.SameClient next)
    (hnext : next.SameClient last) : session.SameClient last where
  id_eq := hnext.id_eq.trans h.id_eq
  peer_eq := hnext.peer_eq.trans h.peer_eq
  headerLimit_eq := hnext.headerLimit_eq.trans h.headerLimit_eq
  chunkSize_eq := hnext.chunkSize_eq.trans h.chunkSize_eq

end SameClient

/-- What the connection took between the two sessions is counted, and nothing else is. -/
structure Moves (session next : Session) : Prop where
  client : session.SameClient next
  bytesReceived_eq : next.stats.bytesReceived = session.stats.bytesReceived
  bytesSent_eq : next.stats.bytesSent + session.transport.sent.length =
    session.stats.bytesSent + next.transport.sent.length
  framesSent_eq : next.stats.framesSent = session.stats.framesSent
  requestsServed_eq : next.stats.requestsServed = session.stats.requestsServed

theorem Moves.refl (session : Session) : session.Moves session :=
  ⟨.refl session, rfl, rfl, rfl, rfl⟩

/-- Moves change nothing about the other counters. -/
theorem Moves.withSent_eq {session next : Session} (h : session.Moves next) (bytesSent : Nat) :
    next.stats.withSent bytesSent = session.stats.withSent bytesSent := by
  simp only [SessionStats.withSent, h.bytesReceived_eq, h.framesSent_eq, h.requestsServed_eq]

/-- If the next writes end as `taken` and then one fails, and the later session has come to this
failure, then nothing is counted but what was taken before it. -/
def Refused (session next : Session) : Prop :=
  ∀ taken error rest, session.transport.outcomes = taken ++ .failure error :: rest →
    next.transport.outcomes.length ≤ rest.length →
      next.transport.outcomes = rest ∧
        next.stats = session.stats.withSent next.stats.bytesSent ∧
        (taken = [] → next.stats = session.stats)

/-- No write, no failure. -/
theorem Refused.of_outcomes_eq {session next : Session}
    (h : next.transport.outcomes = session.transport.outcomes) : session.Refused next := by
  intro taken error rest houtcomes hlength
  rw [h, houtcomes, List.length_append, List.length_cons] at hlength
  omega

/-- One write, and nothing is counted if it fails. -/
theorem Refused.of_tail {session next : Session}
    (htail : next.transport.outcomes = session.transport.outcomes.tail)
    (hstats : ∀ error rest, session.transport.outcomes = .failure error :: rest →
      next.stats = session.stats) : session.Refused next := by
  rintro (_ | ⟨outcome, taken⟩) error rest houtcomes hlength
  · have hsame := hstats error rest houtcomes
    exact ⟨by rw [htail, houtcomes]; rfl, by rw [hsame]; rfl, fun _ => hsame⟩
  · -- The only write did not fail, and the later session has come no further.
    rw [htail, houtcomes, List.cons_append, List.tail_cons, List.length_append, List.length_cons]
      at hlength
    omega

/-- The answer was given in full: the session is over with it, or waits for another request. -/
def IsDelivered (result : Flow × Session) : Prop :=
  result.1 = .close .responseComplete ∨ result.2.phase = .awaitingHeaders

instance : DecidablePred IsDelivered := fun _ => inferInstanceAs (Decidable (_ ∨ _))

/-- The counters fit what came of an attempt to send. -/
structure Books (session : Session) (result : Flow × Session) : Prop where
  client : session.SameClient result.2
  bytesReceived_eq : result.2.stats.bytesReceived = session.stats.bytesReceived
  bytesSent_eq : result.2.stats.bytesSent + session.transport.sent.length =
    session.stats.bytesSent + result.2.transport.sent.length
  requestsServed_eq : result.2.stats.requestsServed =
    session.stats.requestsServed + if IsDelivered result then 1 else 0
  refused : session.Refused result.2

namespace Moves

variable {session next : Session} {result : Flow × Session} (h : session.Moves next)

include h

/-- The books of what follows some moves are those of the whole. -/
theorem books (hbooks : next.Books result) (hrefused : session.Refused result.2) :
    session.Books result where
  client := h.client.trans hbooks.client
  bytesReceived_eq := hbooks.bytesReceived_eq.trans h.bytesReceived_eq
  bytesSent_eq := by
    have hbefore := h.bytesSent_eq
    have hafter := hbooks.bytesSent_eq
    omega
  requestsServed_eq := by rw [hbooks.requestsServed_eq, h.requestsServed_eq]
  refused := hrefused

/-- A session that goes on with its answer has not given it. -/
theorem goesOn (hphase : next.phase ≠ .awaitingHeaders) (hrefused : session.Refused next) :
    session.Books (.keep, next) where
  client := h.client
  bytesReceived_eq := h.bytesReceived_eq
  bytesSent_eq := h.bytesSent_eq
  requestsServed_eq := by
    have hopen : ¬ IsDelivered (.keep, next) := by simp [IsDelivered, hphase]
    rw [if_neg hopen]
    exact h.requestsServed_eq
  refused := hrefused

/-- A session that is over for any other reason has not given its answer. -/
theorem ends {reason : CloseReason} (hreason : reason ≠ .responseComplete)
    (hrefused : session.Refused next) :
    session.Books (.close reason, { next with phase := .closed }) where
  client := ⟨h.client.1, h.client.2, h.client.3, h.client.4⟩
  bytesReceived_eq := h.bytesReceived_eq
  bytesSent_eq := h.bytesSent_eq
  requestsServed_eq := by
    have hopen : ¬ IsDelivered (.close reason, { next with phase := .closed }) := by
      simp [IsDelivered, hreason]
    rw [if_neg hopen]
    exact h.requestsServed_eq
  refused := hrefused

end Moves

/-- A session that is over has given its answer. -/
theorem books_finish (session : Session) : session.Books session.finish where
  client := ⟨rfl, rfl, rfl, rfl⟩
  bytesReceived_eq := rfl
  bytesSent_eq := rfl
  requestsServed_eq := by
    have hdelivered : IsDelivered session.finish := Or.inl rfl
    rw [if_pos hdelivered]
    rfl
  refused := .of_outcomes_eq rfl

section Offer

variable (session : Session) (now : Nat) (bytes : Slice)

/-- An attempt to write counts what was taken. -/
theorem moves_offer : session.Moves (session.offer now bytes).2 := by
  rcases session.offer_cases now bytes with
    ⟨-, transport, hsent, hoffer⟩ | ⟨-, count, transport, hcount, hsent, hoffer⟩
  · rw [hoffer]
    exact ⟨⟨rfl, rfl, rfl, rfl⟩, rfl, by rw [hsent], rfl, rfl⟩
  · rw [hoffer]
    refine ⟨⟨rfl, rfl, rfl, rfl⟩, rfl, ?_, rfl, rfl⟩
    show session.stats.bytesSent + count + session.transport.sent.length =
      session.stats.bytesSent + transport.sent.length
    rw [hsent, List.length_append, List.length_take, Slice.length_toBytes,
      Nat.min_eq_left hcount, Nat.add_right_comm, Nat.add_assoc]

/-- An attempt to write moves on neither the phase nor the head. -/
theorem offer_stays : (session.offer now bytes).2.phase = session.phase ∧
    (session.offer now bytes).2.response = session.response ∧
    (session.offer now bytes).2.responseSent = session.responseSent := by
  rcases session.offer_cases now bytes with
    ⟨-, transport, -, hoffer⟩ | ⟨-, count, transport, -, -, hoffer⟩
  all_goals
    rw [hoffer]
    exact ⟨rfl, rfl, rfl⟩

/-- An attempt to write uses up the way in which it ends. -/
theorem outcomes_offer :
    (session.offer now bytes).2.transport.outcomes = session.transport.outcomes.tail := by
  rw [← session.transport.outcomes_write bytes, offer]
  obtain ⟨result, transport⟩ := session.transport.write bytes
  cases result with
  | error error => rfl
  | ok count =>
    dsimp only
    split <;> rfl

/-- A write that fails takes nothing and is not counted. -/
theorem offer_of_failure {error : TransportError} {rest : List WriteOutcome}
    (h : session.transport.outcomes = .failure error :: rest) : session.offer now bytes =
      (if error.isTransient then some 0 else none,
        { session with transport.outcomes := rest }) := by
  simp [offer, Transport.write, Transport.nextOutcome, h]

end Offer

/-- What comes of an attempt to write, or of none: the number of bytes that the connection took, and
the session with what is counted of them. -/
structure Tries (session : Session) (attempt : Option Nat × Session) : Prop where
  moves : session.Moves attempt.2
  phase_eq : attempt.2.phase = session.phase
  response_eq : attempt.2.response = session.response
  responseSent_eq : attempt.2.responseSent = session.responseSent
  /-- Nothing is counted for a failure, as long as nothing is made of an attempt that took
  nothing. -/
  refused : ∀ next : Session, next.transport = attempt.2.transport →
    (attempt.1.getD 0 = 0 → next.stats = attempt.2.stats) → session.Refused next

/-- Whether it is made or not, an attempt to write is counted as far as it went. -/
theorem tries_offer (session : Session) (now : Nat) (bytes : Slice) :
    session.Tries (session.offer now bytes) where
  moves := session.moves_offer now bytes
  phase_eq := (session.offer_stays now bytes).1
  response_eq := (session.offer_stays now bytes).2.1
  responseSent_eq := (session.offer_stays now bytes).2.2
  refused next htransport hstats := by
    refine .of_tail (by rw [htransport, session.outcomes_offer]) fun error rest houtcomes => ?_
    rw [session.offer_of_failure now bytes houtcomes] at hstats
    refine hstats ?_
    dsimp only
    split <;> rfl

/-- What fails after an attempt that took something fails in the rest of the event. -/
theorem refused_after_offer (session : Session) (now : Nat) (bytes : Slice) {count : Nat}
    (htook : (session.offer now bytes).1 = some count) (hpos : 0 < count) {mid last : Session}
    (htransport : mid.transport = (session.offer now bytes).2.transport)
    (hstats : mid.stats = (session.offer now bytes).2.stats) (h : mid.Refused last) :
    session.Refused last := by
  rintro (_ | ⟨outcome, taken⟩) error rest houtcomes hlength
  · -- The attempt itself would have failed, and taken nothing.
    rw [session.offer_of_failure now bytes houtcomes] at htook
    dsimp only at htook
    split at htook
    · cases htook
      cases hpos
    · cases htook
  · have hrest : mid.transport.outcomes = taken ++ .failure error :: rest := by
      rw [htransport, session.outcomes_offer, houtcomes]
      rfl
    obtain ⟨hlast, hcount, -⟩ := h taken error rest hrest hlength
    refine ⟨hlast, ?_, nofun⟩
    rw [hcount, hstats]
    exact (session.moves_offer now bytes).withSent_eq _

/-- Nothing is counted if nothing is tried. -/
theorem tries_nothing (session : Session) : session.Tries (some 0, session) where
  moves := .refl session
  phase_eq := rfl
  response_eq := rfl
  responseSent_eq := rfl
  refused next htransport _ := .of_outcomes_eq (by rw [htransport])

namespace Tries

variable {session : Session} {attempt : Option Nat × Session} (h : session.Tries attempt)

include h

/-- A failure ends the session, and nothing is counted for it. -/
theorem fails : session.Books attempt.2.fail :=
  h.moves.ends (by decide) (h.refused _ rfl fun _ => rfl)

/-- The session goes on from where the attempt has got to, and `frames` are counted, none for an
attempt that took nothing. -/
theorem goesOn {next : Session} (hphase : session.phase ≠ .awaitingHeaders) (frames : Nat)
    (hclient : attempt.2.SameClient next) (hstays : next.phase = attempt.2.phase)
    (htransport : next.transport = attempt.2.transport)
    (hstats : next.stats =
      { attempt.2.stats with framesSent := attempt.2.stats.framesSent + frames })
    (hframes : attempt.1.getD 0 = 0 → frames = 0) : session.Books (.keep, next) := by
  refine ⟨h.moves.client.trans hclient, ?_, ?_, ?_, h.refused next htransport ?_⟩
  · rw [hstats]
    exact h.moves.bytesReceived_eq
  · rw [hstats, htransport]
    exact h.moves.bytesSent_eq
  · have hopen : ¬ IsDelivered (.keep, next) := by simp [IsDelivered, hstays, h.phase_eq, hphase]
    rw [if_neg hopen, hstats]
    exact h.moves.requestsServed_eq
  · intro hnothing
    rw [hstats, hframes hnothing]
    rfl

/-- The session is over with what it tried, and something was taken. -/
theorem finishes {next : Session} (hclient : attempt.2.SameClient next)
    (htransport : next.transport = attempt.2.transport) (frames : Nat)
    (hstats : next.stats =
      { attempt.2.stats with framesSent := attempt.2.stats.framesSent + frames })
    (htook : attempt.1.getD 0 ≠ 0) : session.Books next.finish := by
  refine ⟨?_, ?_, ?_, ?_, h.refused _ htransport fun hnothing => absurd hnothing htook⟩
  · exact (h.moves.client.trans hclient).trans next.books_finish.client
  · rw [next.books_finish.bytesReceived_eq, hstats]
    exact h.moves.bytesReceived_eq
  · have hfinish := next.books_finish.bytesSent_eq
    have hmoves := h.moves.bytesSent_eq
    rw [hstats, htransport] at hfinish
    dsimp only at hfinish
    omega
  · rw [next.books_finish.requestsServed_eq, hstats]
    exact congrArg (· + _) h.moves.requestsServed_eq

end Tries

variable (session : Session) (now : Nat) (files : FileSystem) (sources : Registry)

/-- The books are kept when frames are sent. -/
theorem books_sendFrames (hphase : session.phase ≠ .awaitingHeaders) :
    session.Books (session.sendFrames now sources) := by
  rw [sendFrames]
  cases session.cursor with
  | none => exact session.books_finish
  | some cursor =>
    dsimp only
    cases sources.get? cursor.source with
    | none => exact session.books_finish
    | some store =>
      dsimp only
      cases (cursor.caughtUp store).unsent? store with
      | none =>
        exact session.tries_nothing.goesOn hphase 0 ⟨rfl, rfl, rfl, rfl⟩ rfl rfl rfl fun _ => rfl
      | some bytes =>
        -- The connection is not asked to take a part that is complete.
        have htries : session.Tries
            (if bytes.isEmpty then (some 0, session) else session.offer now bytes) := by
          split
          · exact session.tries_nothing
          · exact session.tries_offer now bytes
        dsimp only
        generalize (if bytes.isEmpty then (some 0, session) else session.offer now bytes) = attempt
          at htries ⊢
        obtain ⟨result, attempt⟩ := attempt
        cases result with
        | none => exact htries.fails
        | some count =>
          refine htries.goesOn hphase _ ⟨rfl, rfl, rfl, rfl⟩ rfl rfl rfl fun hnothing => ?_
          rw [show count = 0 from hnothing, Cursor.advance_zero]
          rfl

/-- The books are kept when the frame of a still is sent. -/
theorem books_sendStill (hphase : session.phase ≠ .awaitingHeaders) :
    session.Books (session.sendStill now sources) := by
  rw [sendStill]
  dsimp only
  split
  · exact (Moves.refl session).ends (by decide) (.of_outcomes_eq rfl)
  next cursor bytes _ =>
    split
    · exact session.books_finish
    next hempty =>
      have htries := session.tries_offer now bytes
      generalize session.offer now bytes = attempt at htries ⊢
      obtain ⟨result, attempt⟩ := attempt
      cases result with
      | none => exact htries.fails
      | some count =>
        dsimp only
        split
        · exact htries.goesOn hphase 0 ⟨rfl, rfl, rfl, rfl⟩ rfl rfl rfl fun _ => rfl
        next hall =>
          refine htries.finishes ⟨rfl, rfl, rfl, rfl⟩ rfl 1 rfl fun hnothing => hempty ?_
          -- The whole rest was taken, and if that is nothing the rest was empty.
          have hzero : count = 0 := hnothing
          rw [Slice.isEmpty_iff, ← List.length_eq_zero_iff, Slice.length_toBytes]
          omega

/-- The books are kept when a file is sent. At its end the answer is given. -/
theorem books_sendFile (hphase : session.phase ≠ .awaitingHeaders) :
    session.Books (session.sendFile now files) := by
  rw [sendFile]
  cases session.file with
  | none => exact session.books_finish
  | some file =>
    dsimp only
    cases files.readSome session.chunkSize file with
    | error fault => exact session.tries_nothing.fails
    | ok bytes =>
      dsimp only
      split
      · exact ⟨⟨rfl, rfl, rfl, rfl⟩, rfl, rfl, rfl, .of_outcomes_eq rfl⟩
      · have htries := session.tries_offer now bytes
        generalize session.offer now bytes = attempt at htries ⊢
        obtain ⟨result, attempt⟩ := attempt
        cases result with
        | none => exact htries.fails
        | some count =>
          exact htries.goesOn hphase 0 ⟨rfl, rfl, rfl, rfl⟩ rfl rfl rfl fun _ => rfl

/-- The books are kept when what follows a head is sent. -/
theorem books_sendBody (hphase : session.phase ≠ .awaitingHeaders) (kind : RouteKind) :
    session.Books (session.sendBody now files sources kind) := by
  cases kind with
  | badRequest | authRequired | notFound | streamInfo => exact session.books_finish
  | still => exact session.books_sendStill now sources hphase
  | staticFile => exact session.books_sendFile now files hphase
  | stream =>
    have hframes :=
      books_sendFrames { session with phase := .streaming } now sources Phase.noConfusion
    exact ⟨⟨hframes.1.1, hframes.1.2, hframes.1.3, hframes.1.4⟩, hframes.2, hframes.3, hframes.4,
      hframes.5⟩

/-- The books are kept when an answer is sent, also by an event that makes two writes. -/
theorem books_sendAnswer (hphase : session.phase ≠ .awaitingHeaders) (kind : RouteKind) :
    session.Books (session.sendAnswer now files sources kind) := by
  rw [sendAnswer]
  split
  next hleft =>
    have htries := session.tries_offer now (session.response.drop session.responseSent)
    cases hoffer : session.offer now (session.response.drop session.responseSent) with
    | mk result attempt =>
      rw [hoffer] at htries
      cases result with
      | none => exact htries.fails
      | some count =>
        have hmoves : session.Moves { attempt with responseSent := attempt.responseSent + count } :=
          ⟨⟨htries.moves.1.1, htries.moves.1.2, htries.moves.1.3, htries.moves.1.4⟩,
            htries.moves.2, htries.moves.3, htries.moves.4, htries.moves.5⟩
        dsimp only
        split
        · exact htries.goesOn hphase 0 ⟨rfl, rfl, rfl, rfl⟩ rfl rfl rfl fun _ => rfl
        next hall =>
          -- The head is complete now and was not before, so this write did not fail.
          have hpos : 0 < count := by
            have hresponse : attempt.response = session.response := htries.response_eq
            have hsent : attempt.responseSent = session.responseSent := htries.responseSent_eq
            rw [hresponse, hsent] at hall
            omega
          have hbody := books_sendBody { attempt with responseSent := attempt.responseSent + count }
            now files sources (by exact htries.phase_eq ▸ hphase) kind
          refine hmoves.books hbody ?_
          refine session.refused_after_offer now _ (by rw [hoffer]) hpos ?_ ?_ hbody.refused
          all_goals rw [hoffer]
  · exact session.books_sendBody now files sources hphase kind

/-- The books are kept by every attempt to send of a session that gives an answer. -/
theorem books_send (hphase : session.phase ≠ .awaitingHeaders) (hopen : session.phase ≠ .closed) :
    session.Books (session.send now files sources) := by
  have hflushed : session.Moves { session with transport := session.transport.flush.2 } :=
    ⟨⟨rfl, rfl, rfl, rfl⟩, rfl, by rw [session.transport.sent_flush], rfl, rfl⟩
  -- A flush uses up no outcome of a write, so a failure is met by the writes after it.
  have hrefused {last : Session}
      (h : Refused { session with transport := session.transport.flush.2 } last) :
      session.Refused last := by
    intro taken error rest houtcomes hlength
    exact h taken error rest (by rw [session.transport.outcomes_flush, houtcomes]) hlength
  by_cases hfails : Transport.FailsHard session.transport.flush.1
  · rw [session.send_eq_fail now files sources hfails]
    exact hflushed.ends (by decide) (.of_outcomes_eq session.transport.outcomes_flush)
  · have hbooks : Books { session with transport := session.transport.flush.2 }
        ({ session with transport := session.transport.flush.2 }.sendPhase now files sources) := by
      rw [sendPhase]
      split
      next hawaits => exact absurd hawaits hphase
      next hclosed => exact absurd hclosed hopen
      · exact books_sendFrames _ now sources hphase
      next kind _ =>
        exact books_sendAnswer { session with transport := session.transport.flush.2 } now files
          sources hphase kind
    rw [session.send_eq_sendPhase now files sources hfails]
    exact hflushed.books hbooks (hrefused hbooks.refused)

/-- A session that gives no answer sends nothing. It goes on with its connection, or fails. -/
theorem send_of_gives_nothing
    (hphase : session.phase = .awaitingHeaders ∨ session.phase = .closed) :
    ∃ transport phase, (session.send now files sources).2 = { session with transport, phase } ∧
      transport.sent = session.transport.sent ∧
      transport.outcomes = session.transport.outcomes ∧
      (phase = session.phase ∨ phase = .closed) := by
  refine ⟨session.transport.flush.2, ?_⟩
  by_cases hfails : Transport.FailsHard session.transport.flush.1
  · rw [session.send_eq_fail now files sources hfails]
    exact ⟨.closed, rfl, session.transport.sent_flush, session.transport.outcomes_flush, Or.inr rfl⟩
  · rw [session.send_eq_sendPhase now files sources hfails, sendPhase]
    refine ⟨session.phase, ?_, session.transport.sent_flush, session.transport.outcomes_flush,
      Or.inl rfl⟩
    rcases hphase with hphase | hphase <;> simp only [hphase]

/-- Whatever an attempt to send comes to, the session is still that of its client. -/
theorem sameClient_send : session.SameClient (session.send now files sources).2 := by
  by_cases hphase : session.phase = .awaitingHeaders ∨ session.phase = .closed
  · obtain ⟨transport, phase, hsend, -⟩ := session.send_of_gives_nothing now files sources hphase
    rw [hsend]
    exact ⟨rfl, rfl, rfl, rfl⟩
  · rw [not_or] at hphase
    exact (session.books_send now files sources hphase.1 hphase.2).client

/-- Whatever was taken before the last write of an attempt failed, nothing else is counted. -/
theorem refused_send : session.Refused (session.send now files sources).2 := by
  by_cases hphase : session.phase = .awaitingHeaders ∨ session.phase = .closed
  · obtain ⟨transport, phase, hsend, -, houtcomes, -⟩ :=
      session.send_of_gives_nothing now files sources hphase
    rw [hsend]
    exact .of_outcomes_eq houtcomes
  · rw [not_or] at hphase
    exact (session.books_send now files sources hphase.1 hphase.2).refused

/-- What was read between the two sessions is counted, and nothing else is. -/
structure Reads (session next : Session) : Prop where
  client : session.SameClient next
  exists_read : ∃ bytes, session.transport.unread = bytes ++ next.transport.unread ∧
    next.stats = { session.stats with
      bytesReceived := session.stats.bytesReceived + bytes.length }
  sent_eq : next.transport.sent = session.transport.sent

/-- To begin with an answer counts nothing. -/
theorem reads_respond (route : Route) : session.Reads (session.respond files sources route) := by
  obtain ⟨kind, head, cursor, file, heq⟩ := session.exists_respond_eq files sources route
  rw [heq]
  exact ⟨⟨rfl, rfl, rfl, rfl⟩, ⟨[], rfl, rfl⟩, rfl⟩

/-- What was read is counted before it is looked at. -/
theorem reads_gather (router : Router) (bytes : Bytes) :
    session.Reads (session.gather router files sources bytes) := by
  have hrespond (route : Route) :
      session.Reads ({ session with request := [] }.respond files sources route) := by
    have h := reads_respond { session with request := [] } files sources route
    exact ⟨⟨h.1.1, h.1.2, h.1.3, h.1.4⟩, h.2, h.3⟩
  rw [gather]
  dsimp only
  split
  · exact hrespond _
  · split
    · exact hrespond _
    · exact ⟨⟨rfl, rfl, rfl, rfl⟩, ⟨[], rfl, rfl⟩, rfl⟩

/-- Every attempt to read counts what it brings. -/
theorem reads_receive (router : Router) :
    session.Reads (session.receive now router files sources).2 := by
  rw [receive]
  split
  · exact ⟨.refl session, ⟨[], rfl, rfl⟩, rfl⟩
  · have hread := session.transport.unread_read session.readSize
    have hsent := session.transport.sent_read session.readSize
    generalize session.transport.read session.readSize = attempt at hread hsent ⊢
    obtain ⟨result, transport⟩ := attempt
    cases result with
    | error error =>
      -- A failure brings nothing, whether the session goes on or not.
      dsimp only
      split
      all_goals exact ⟨⟨rfl, rfl, rfl, rfl⟩, ⟨[], hread, rfl⟩, hsent⟩
    | ok bytes =>
      dsimp only
      split
      next hempty =>
        have hnil : bytes = [] := List.isEmpty_iff.mp hempty
        exact ⟨⟨rfl, rfl, rfl, rfl⟩, ⟨[], by rw [hread, hnil]; rfl, rfl⟩, hsent⟩
      next =>
        obtain ⟨hclient, ⟨more, hunread, hstats⟩, hsame⟩ :=
          reads_gather (session.afterRead now transport bytes) files sources router bytes
        refine ⟨⟨hclient.1, hclient.2, hclient.3, hclient.4⟩, ⟨bytes ++ more, ?_, ?_⟩, ?_⟩
        · rw [List.append_assoc]
          exact hread.trans (congrArg (bytes ++ ·) hunread)
        · refine hstats.trans ?_
          rw [List.length_append, ← Nat.add_assoc]
          rfl
        · exact hsame.trans hsent

end Session

end MotionJpeg
