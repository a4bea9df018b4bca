import Mathlib.Data.List.Infix
import MotionJpeg.Proofs.Session.Steps

/-!
# Files on their way

A file is read again at every attempt to send some of it, so that it may be another one each time.
The invariant therefore says what was sent of the body, and not of which contents.

* `Session.Downloads` is the invariant of a session that sends a file.
* `Session.Downloads.send`: what can come of one attempt, whatever the file holds then.
-/

namespace MotionJpeg.Session

/-- After the bytes of `earlier` the session sends an answer that begins with `head` and goes on
with the contents of a file. Of these it has sent `body`. -/
structure Downloads (earlier head : Bytes) (number : Nat) (body : Bytes) (session : Session) :
    Prop where
  phase_eq : session.phase = .draining .staticFile
  response_eq : session.response = .ofBytes head
  responseSent_le : session.responseSent ≤ head.length
  /-- The body begins after the head. -/
  body_eq_nil : session.responseSent < head.length → body = []
  file_eq : session.file = some (.file number body.length)
  sent_eq : session.transport.sent = earlier ++ head.take session.responseSent ++ body

/-- What can come of an attempt to send some more of a file that holds `content` now. -/
inductive DownloadOutcome (earlier head : Bytes) (number : Nat) (body content : Bytes) :
    Flow → Session → Prop where
  /-- Some more was sent, or nothing. -/
  | goesOn {session : Session} (more : Bytes) (hmore : more <+: content.drop body.length)
      (h : Downloads earlier head number (body ++ more) session) :
      DownloadOutcome earlier head number body content .keep session
  /-- There is nothing behind what was sent, and the session waits for another request. -/
  | ends {session : Session} (hend : content.length ≤ body.length)
      (hphase : session.phase = .awaitingHeaders) (hrequest : session.request = [])
      (hsent : session.transport.sent = earlier ++ (head ++ body)) :
      DownloadOutcome earlier head number body content .keep session
  /-- The connection has failed. -/
  | fails {session : Session} (hphase : session.phase = .closed) (written : Bytes)
      (hwritten : written <+: head ++ body) (hsent : session.transport.sent = earlier ++ written) :
      DownloadOutcome earlier head number body content (.close .transportFailed) session

namespace Downloads

variable {earlier head body : Bytes} {number : Nat} {session : Session}

/-- What the network does to the connection does not matter, as long as the peer keeps what it was
given. -/
theorem withTransport (h : Downloads earlier head number body session) {transport : Transport}
    (hsent : transport.sent = session.transport.sent) :
    Downloads earlier head number body { session with transport } :=
  { h with sent_eq := hsent.trans h.sent_eq }

/-- A beginning of the answer was sent. -/
theorem exists_written (h : Downloads earlier head number body session) :
    ∃ written, written <+: head ++ body ∧ session.transport.sent = earlier ++ written := by
  refine ⟨head.take session.responseSent ++ body, ?_, by rw [h.sent_eq, List.append_assoc]⟩
  by_cases hhead : session.responseSent < head.length
  · rw [h.body_eq_nil hhead, List.append_nil, List.append_nil]
    exact List.take_prefix _ _
  · rw [List.take_of_length_le (Nat.not_lt.mp hhead)]

/-- A connection that has failed leaves a beginning of the answer. -/
theorem failed (h : Downloads earlier head number body session) (content : Bytes)
    {transport : Transport} (hsent : transport.sent = session.transport.sent) :
    DownloadOutcome earlier head number body content { session with transport }.fail.1
      { session with transport }.fail.2 := by
  obtain ⟨written, hwritten, heq⟩ := h.exists_written
  exact .fails rfl written hwritten (hsent.trans heq)

variable (now : Nat) (files : FileSystem)

/-- What can come of an attempt to send the next chunk of the file. -/
theorem sendFile (h : Downloads earlier head number body session)
    (hhead : session.responseSent = head.length) :
    DownloadOutcome earlier head number body (files.content number).toList
      (session.sendFile now files).1 (session.sendFile now files).2 := by
  have hsent : session.transport.sent = earlier ++ (head ++ body) := by
    rw [h.sent_eq, hhead, List.take_length, List.append_assoc]
  -- The chunk is read behind what was sent, from what the file holds now.
  obtain ⟨chunk, hread, hchunk⟩ : ∃ chunk,
      files.readSome session.chunkSize (.file number body.length) = .ok chunk ∧
      chunk.toBytes = ((files.content number).toList.drop body.length).take session.chunkSize :=
    ⟨_, rfl, by rw [Slice.toBytes_take, Slice.toBytes_drop, Slice.toBytes_ofArray]⟩
  rcases session.sendFile_cases now files h.file_eq hread with
    ⟨hempty, hresult⟩ | ⟨-, ⟨-, transport, hsame, hresult⟩ |
      ⟨-, count, transport, hcount, hwritten, hresult⟩⟩
  · rw [hresult]
    refine .ends ?_ rfl rfl hsent
    -- An empty chunk means that the file ends here or before.
    have hlength := congrArg List.length hchunk
    rw [chunk.isEmpty_iff.mp hempty, List.length_take, List.length_drop, List.length_nil] at hlength
    have hpos := session.chunkSize_pos
    omega
  · rw [hresult]
    exact h.failed _ hsame
  · rw [hresult]
    refine .goesOn (chunk.toBytes.take count) ?_ ⟨h.phase_eq, h.response_eq, h.responseSent_le,
      fun hshort => absurd hhead (Nat.ne_of_lt hshort), ?_, ?_⟩
    · rw [hchunk]
      exact (List.take_prefix _ _).trans (List.take_prefix _ _)
    · have hlength : (chunk.toBytes.take count).length = count := by
        rw [List.length_take, Slice.length_toBytes, Nat.min_eq_left hcount]
      rw [List.length_append, hlength]
      rfl
    · have hsame : (session.afterWrite now transport count).responseSent = head.length := hhead
      refine hwritten.trans ?_
      rw [hsent, hsame]
      simp only [List.take_length, List.append_assoc]

/-- More bytes of the head are sent. -/
theorem afterHead (h : Downloads earlier head number body session)
    (hshort : session.responseSent < head.length) {transport : Transport} {count : Nat}
    (hcount : session.responseSent + count ≤ head.length)
    (hsent : transport.sent =
      session.transport.sent ++ (head.drop session.responseSent).take count) :
    Downloads earlier head number body (session.afterHead now transport count) :=
  { h with
    responseSent_le := hcount
    body_eq_nil := fun _ => h.body_eq_nil hshort
    sent_eq := by
      refine hsent.trans ?_
      rw [h.sent_eq, h.body_eq_nil hshort, List.append_nil, List.append_nil, List.append_assoc,
        ← List.take_add]
      rfl }

/-- An attempt on the head changes nothing of the body, and the body follows in the same event if
the head is complete. -/
theorem sendAnswer (h : Downloads earlier head number body session) (sources : Registry) :
    DownloadOutcome earlier head number body (files.content number).toList
      (session.sendAnswer now files sources .staticFile).1
      (session.sendAnswer now files sources .staticFile).2 := by
  have hresponse : session.response.toBytes = head := by
    rw [h.response_eq, Slice.toBytes_ofBytes]
  have hlength : session.response.length = head.length := by
    rw [h.response_eq, Slice.length_ofBytes]
  by_cases hshort : session.responseSent < session.response.length
  · rcases session.sendAnswer_cases now files sources .staticFile hshort with
      ⟨-, transport, hsent, hresult⟩ | ⟨-, count, transport, hcount, hsent, -, hresult⟩
    · rw [hresult]
      exact h.failed _ hsent
    · rw [hresult]
      rw [hresponse] at hsent
      rw [hlength] at hshort hcount ⊢
      have hafter := h.afterHead now hshort hcount hsent
      by_cases hleft : session.responseSent + count < head.length
      · rw [if_pos hleft]
        exact .goesOn [] List.nil_prefix (by rwa [List.append_nil])
      · rw [if_neg hleft]
        exact hafter.sendFile now files (Nat.le_antisymm hcount (Nat.not_lt.mp hleft))
  · have hhead : session.responseSent = head.length := by
      have hle := h.responseSent_le
      omega
    have hsend : session.sendAnswer now files sources .staticFile = session.sendFile now files := by
      rw [Session.sendAnswer, if_neg hshort, Session.sendBody]
    rw [hsend]
    exact h.sendFile now files hhead

/-- What can come of an event of a writable connection, whatever the file holds then. -/
theorem send (h : Downloads earlier head number body session) (sources : Registry) :
    DownloadOutcome earlier head number body (files.content number).toList
      (session.send now files sources).1 (session.send now files sources).2 := by
  by_cases hfails : Transport.FailsHard session.transport.flush.1
  · rw [session.send_eq_fail now files sources hfails]
    exact h.failed _ session.transport.sent_flush
  · have hflushed := h.withTransport session.transport.sent_flush
    rw [session.send_eq_sendPhase now files sources hfails,
      sendPhase_of_draining _ now files sources hflushed.phase_eq]
    exact hflushed.sendAnswer now files sources

/-- A session that was asked for a file begins with the head of its answer. -/
theorem respond (session : Session) {files : FileSystem} {path : Path}
    (hopen : files.openFile path = .ok (.file number 0)) (sources : Registry) (length : Nat)
    (mediaType : String) : Downloads session.transport.sent
      (Http.Reply.fileHeader length mediaType) number []
      (session.respond files sources (.staticFile path length mediaType)) := by
  rw [Session.respond]
  simp only [hopen]
  exact ⟨rfl, rfl, Nat.zero_le _, fun _ => rfl, rfl, by simp [answering]⟩

end Downloads

end MotionJpeg.Session
