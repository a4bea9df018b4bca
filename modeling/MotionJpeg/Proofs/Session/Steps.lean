import MotionJpeg.Proofs.Session.Offer

/-!
# What a session can do

For every way to go on with an answer, all that can come of one event. Each lemma covers the
failures and tells the whole session that is left, so that what holds along a run is shown from
these lemmas alone.

* `Session.sendAnswer_cases` is about the head of an answer.
* `Session.sendFrames_cases` is about the frames of a stream.
* `Session.sendStill_cases` and `Session.sendFile_cases` are about a frame and a file.
-/

namespace MotionJpeg.Session

variable (session : Session) (now : Nat)

/-- The session after the connection took `count` more bytes of the head. -/
def afterHead (transport : Transport) (count : Nat) : Session :=
  { session.afterWrite now transport count with responseSent := session.responseSent + count }

/-- As long as something of the head is left it is offered first. Then follows the body, in the
same event if nothing of the head is left any more. -/
theorem sendAnswer_cases (files : FileSystem) (sources : Registry) (kind : RouteKind)
    (hleft : session.responseSent < session.response.length) :
    (Transport.FailsHard
        (session.transport.write (session.response.drop session.responseSent)).1 ∧
      ∃ transport, transport.sent = session.transport.sent ∧
        session.sendAnswer now files sources kind = { session with transport }.fail) ∨
    (¬ Transport.FailsHard
        (session.transport.write (session.response.drop session.responseSent)).1 ∧
      ∃ count transport, session.responseSent + count ≤ session.response.length ∧
        transport.sent = session.transport.sent ++
          (session.response.toBytes.drop session.responseSent).take count ∧
        session.offer now (session.response.drop session.responseSent) =
          (some count, session.afterWrite now transport count) ∧
        session.sendAnswer now files sources kind =
          if session.responseSent + count < session.response.length then
            (.keep, session.afterHead now transport count)
          else (session.afterHead now transport count).sendBody now files sources kind) := by
  rw [sendAnswer, if_pos hleft]
  -- The offer is the rest of the head, so its length bounds what is taken.
  rcases session.offer_cases now (session.response.drop session.responseSent) with
    ⟨hfails, transport, hsent, hoffer⟩ | ⟨hfails, count, transport, hcount, hsent, hoffer⟩
  · rw [hoffer]
    exact Or.inl ⟨hfails, transport, hsent, rfl⟩
  · rw [hoffer]
    refine Or.inr ⟨hfails, count, transport, ?_, ?_, rfl, rfl⟩
    · rw [← Slice.length_toBytes, Slice.toBytes_drop, List.length_drop, Slice.length_toBytes]
        at hcount
      omega
    · rw [hsent, Slice.toBytes_drop]

/-- A stream with a cursor for an existing source goes on waiting, or fails, or sends some bytes
of the frame that its cursor has caught up with. -/
theorem sendFrames_cases (sources : Registry) {cursor : Cursor} {store : Store}
    (hcursor : session.cursor = some cursor) (hstore : sources.get? cursor.source = some store) :
    ((cursor.caughtUp store).unsent? store = none ∧ session.sendFrames now sources =
      (.keep, { session with cursor := some (cursor.caughtUp store) })) ∨
    ∃ bytes, (cursor.caughtUp store).unsent? store = some bytes ∧
      ((∃ transport, transport.sent = session.transport.sent ∧
          session.sendFrames now sources = { session with transport }.fail) ∨
        ∃ count transport, count ≤ bytes.length ∧
          transport.sent = session.transport.sent ++ bytes.toBytes.take count ∧
          session.sendFrames now sources =
            (.keep,
              { session.afterWrite now transport count with
                cursor := some ((cursor.caughtUp store).advance store count).2
                stats.framesSent := session.stats.framesSent +
                  if ((cursor.caughtUp store).advance store count).1 then 1 else 0 })) := by
  rw [sendFrames, hcursor]
  simp only [hstore]
  cases hunsent : (cursor.caughtUp store).unsent? store with
  | none => exact Or.inl ⟨rfl, rfl⟩
  | some bytes =>
    refine Or.inr ⟨bytes, rfl, ?_⟩
    by_cases hempty : bytes.isEmpty
    · -- The connection is not asked, which is the same as a write that takes nothing.
      refine Or.inr ⟨0, session.transport, Nat.zero_le _, by simp, ?_⟩
      simp only [hempty, if_true]
      rfl
    · simp only [hempty, Bool.false_eq_true, if_false]
      rcases session.offer_cases now bytes with
        ⟨-, transport, hsent, hoffer⟩ | ⟨-, count, transport, hcount, hsent, hoffer⟩
      · rw [hoffer]
        exact Or.inl ⟨transport, hsent, by simp only [hcursor]⟩
      · rw [hoffer]
        exact Or.inr ⟨count, transport, hcount, hsent, rfl⟩

/-- A still whose frame is gone ends. Otherwise it fails, or it sends some bytes of the image and
ends with the last of them. -/
theorem sendStill_cases (sources : Registry) {cursor : Cursor} {store : Store}
    (hcursor : session.cursor = some cursor) (hstore : sources.get? cursor.source = some store) :
    (cursor.unsentPayload? store = none ∧ session.sendStill now sources =
      (.close .frameUnavailable, { session with phase := .closed })) ∨
    ∃ bytes, cursor.unsentPayload? store = some bytes ∧
      (bytes.isEmpty = true ∧ session.sendStill now sources = session.finish ∨
        bytes.isEmpty = false ∧
          ((Transport.FailsHard (session.transport.write bytes).1 ∧
            ∃ transport, transport.sent = session.transport.sent ∧
              session.sendStill now sources = { session with transport }.fail) ∨
          (¬ Transport.FailsHard (session.transport.write bytes).1 ∧
            ∃ count transport, count ≤ bytes.length ∧
              transport.sent = session.transport.sent ++ bytes.toBytes.take count ∧
              session.sendStill now sources =
                if count < bytes.length then
                  (.keep,
                    { session.afterWrite now transport count with
                      cursor := some { cursor with offset := cursor.offset + count } })
                else
                  { session.afterWrite now transport count with
                    cursor := some { cursor with offset := cursor.offset + count }
                    stats.framesSent := session.stats.framesSent + 1 }.finish))) := by
  rw [sendStill, hcursor]
  simp only [Option.bind_some, hstore]
  cases hunsent : cursor.unsentPayload? store with
  | none => exact Or.inl ⟨rfl, rfl⟩
  | some bytes =>
    refine Or.inr ⟨bytes, rfl, ?_⟩
    simp only [Option.map_some]
    -- The connection is asked only if something of the image is left.
    cases hempty : bytes.isEmpty with
    | true => exact Or.inl ⟨rfl, rfl⟩
    | false =>
      refine Or.inr ⟨rfl, ?_⟩
      rcases session.offer_cases now bytes with
        ⟨hfails, transport, hsent, hoffer⟩ | ⟨hfails, count, transport, hcount, hsent, hoffer⟩
      · rw [hoffer]
        exact Or.inl ⟨hfails, transport, hsent, by simp [hcursor]⟩
      · rw [hoffer]
        exact Or.inr ⟨hfails, count, transport, hcount, hsent, rfl⟩

/-- At the end of a file the session waits for another request. Before that it fails, or it sends
some bytes of the next chunk. -/
theorem sendFile_cases (files : FileSystem) {file : OpenFile} {bytes : Slice}
    (hfile : session.file = some file)
    (hread : files.readSome session.chunkSize file = .ok bytes) :
    (bytes.isEmpty = true ∧ session.sendFile now files =
      (.keep, { session.reset with stats.requestsServed := session.stats.requestsServed + 1 })) ∨
    bytes.isEmpty = false ∧
      ((Transport.FailsHard (session.transport.write bytes).1 ∧
        ∃ transport, transport.sent = session.transport.sent ∧
          session.sendFile now files = { session with transport }.fail) ∨
      (¬ Transport.FailsHard (session.transport.write bytes).1 ∧
        ∃ count transport, count ≤ bytes.length ∧
          transport.sent = session.transport.sent ++ bytes.toBytes.take count ∧
          session.sendFile now files =
            (.keep,
              { session.afterWrite now transport count with
                file := some (file.advance count) }))) := by
  rw [sendFile, hfile]
  simp only [hread]
  -- An empty chunk is the end of the file.
  cases hempty : bytes.isEmpty with
  | true => exact Or.inl ⟨rfl, rfl⟩
  | false =>
    refine Or.inr ⟨rfl, ?_⟩
    rcases session.offer_cases now bytes with
      ⟨hfails, transport, hsent, hoffer⟩ | ⟨hfails, count, transport, hcount, hsent, hoffer⟩
    · rw [hoffer]
      exact Or.inl ⟨hfails, transport, hsent, by simp [hfile]⟩
    · rw [hoffer]
      exact Or.inr ⟨hfails, count, transport, hcount, hsent, rfl⟩

end MotionJpeg.Session
