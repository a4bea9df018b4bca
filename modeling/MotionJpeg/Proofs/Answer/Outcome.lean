import MotionJpeg.Proofs.Answer.OneShot
import MotionJpeg.Proofs.Frame.Cursor
import MotionJpeg.Proofs.Session.Steps

/-!
# One attempt to send an answer

What becomes of a session when it sends some more of an answer that is given once. The session
counts the bytes of the head and those of the body apart, and what the peer was given is always
what these two numbers say.

* `Session.ConnectionFails`: one of the attempts that are made fails for good.
* `Session.Answers` is the invariant of a session that gives an answer.
* `Session.Outcome` lists what can come of an attempt, `Session.Answers.send` shows that nothing
  else does.
-/

namespace MotionJpeg.Session

section Failures

variable (session : Session) (now : Nat) (files : FileSystem) (sources : Registry)

/-- What a session offers of the body of its answer. -/
def bodyOffer? : RouteKind → Option Slice
  | .still =>
    session.cursor.bind fun cursor => (sources.get? cursor.source).bind cursor.unsentPayload?
  | .staticFile => session.file.bind fun file => (files.readSome session.chunkSize file).toOption
  | .badRequest | .authRequired | .notFound | .streamInfo | .stream => none

/-- The connection fails for good when it is offered the body. -/
def BodyFails (kind : RouteKind) : Prop :=
  ∃ bytes, session.bodyOffer? files sources kind = some bytes ∧ bytes.isEmpty = false ∧
    Transport.FailsHard (session.transport.write bytes).1

/-- The connection fails for good when it is offered the rest of the head, or the body after it. -/
def AnswerFails (kind : RouteKind) : Prop :=
  if session.responseSent < session.response.length then
    let head := session.response.drop session.responseSent
    Transport.FailsHard (session.transport.write head).1 ∨
      ∃ count next, session.offer now head = (some count, next) ∧
        session.responseSent + count = session.response.length ∧
        next.BodyFails files sources kind
  else session.BodyFails files sources kind

/-- The connection fails for good when it is flushed, or when it is offered something then. -/
def ConnectionFails (kind : RouteKind) : Prop :=
  Transport.FailsHard session.transport.flush.1 ∨
    { session with transport := session.transport.flush.2 }.AnswerFails now files sources kind

/-- Only an offer of some bytes can fail. -/
theorem bodyFails_iff {session : Session} {kind : RouteKind} {offered : Slice}
    (hoffer : session.bodyOffer? files sources kind = some offered) :
    session.BodyFails files sources kind ↔
      offered.isEmpty = false ∧ Transport.FailsHard (session.transport.write offered).1 := by
  simp [BodyFails, hoffer]

/-- After an attempt on the head that the connection stands only the body can fail. -/
theorem headFails_iff (session : Session) {now : Nat} (kind : RouteKind) {head : Slice}
    {transport : Transport} {count : Nat}
    (hstands : ¬ Transport.FailsHard (session.transport.write head).1)
    (hoffer : session.offer now head = (some count, session.afterWrite now transport count)) :
    (Transport.FailsHard (session.transport.write head).1 ∨
      ∃ count next, session.offer now head = (some count, next) ∧
        session.responseSent + count = session.response.length ∧
        next.BodyFails files sources kind) ↔
    session.responseSent + count = session.response.length ∧
      (session.afterHead now transport count).BodyFails files sources kind := by
  constructor
  · rintro (hfails | ⟨count, next, heq, hend, hfails⟩)
    · exact absurd hfails hstands
    · rw [hoffer] at heq
      cases heq
      exact ⟨hend, hfails⟩
  · rintro ⟨hend, hfails⟩
    exact Or.inr ⟨count, _, hoffer, hend, hfails⟩

end Failures

/-- The session gives an answer whose body is `bytes` as far as it is known, and `bodySent` bytes
of that were sent. Before `origin` was asked for the answer other things may have been sent. -/
structure Answers (origin : Session) (answer : OneShot) (bytes : Bytes) (bodySent : Nat)
    (session : Session) : Prop where
  phase_eq : session.phase = .draining answer.kind
  response_eq : session.response = .ofBytes answer.head
  responseSent_le : session.responseSent ≤ answer.head.length
  /-- The body begins after the head. -/
  bodySent_eq_zero : session.responseSent < answer.head.length → bodySent = 0
  bodySent_le : bodySent ≤ bytes.length
  isAt : answer.body.IsAt session bodySent
  sent_eq : session.transport.sent = origin.transport.sent ++
    answer.head.take session.responseSent ++ bytes.take bodySent

/-- What the session has sent is a beginning of the answer. -/
def HasSent (origin : Session) (answer bytes : Bytes) (session : Session) : Prop :=
  ∃ written, session.transport.sent = origin.transport.sent ++ written ∧ written <+: answer ++ bytes

/-- What can come of an attempt to send some of an answer, when `fails` says that the connection
fails for good, and `missing` that the frame of the body is not there. -/
inductive Outcome (origin : Session) (answer : OneShot) (bytes : Bytes) (fails missing : Prop) :
    Flow → Session → Prop where
  /-- Something is left to send. -/
  | goesOn {session : Session} (bodySent : Nat) (hstands : ¬ fails)
      (hthere : missing → session.responseSent < answer.head.length)
      (h : Answers origin answer bytes bodySent session) :
      Outcome origin answer bytes fails missing .keep session
  /-- The answer was sent to its end, and the session is over. -/
  | completes {session : Session} (hstands : ¬ fails) (hthere : ¬ missing)
      (hkind : answer.kind ≠ .staticFile) (hphase : session.phase = .closed)
      (hsent : session.transport.sent = origin.transport.sent ++ (answer.head ++ bytes)) :
      Outcome origin answer bytes fails missing (.close .responseComplete) session
  /-- The answer was sent to its end, and the session waits for another request. -/
  | awaits {session : Session} (hstands : ¬ fails) (hthere : ¬ missing)
      (hkind : answer.kind = .staticFile) (hphase : session.phase = .awaitingHeaders)
      (hsent : session.transport.sent = origin.transport.sent ++ (answer.head ++ bytes)) :
      Outcome origin answer bytes fails missing .keep session
  /-- The connection has failed. -/
  | isOver {session : Session} (hfails : fails) (hphase : session.phase = .closed)
      (hsent : HasSent origin answer.head bytes session) :
      Outcome origin answer bytes fails missing (.close .transportFailed) session
  /-- The head was sent, and there is no frame. -/
  | unavailable {session : Session} (hstands : ¬ fails) (hmissing : missing)
      (hkind : answer.kind = .still) (hphase : session.phase = .closed) (bodySent : Nat)
      (hsent : session.transport.sent =
        origin.transport.sent ++ (answer.head ++ bytes.take bodySent)) :
      Outcome origin answer bytes fails missing (.close .frameUnavailable) session

namespace Outcome

variable {origin session : Session} {answer : OneShot} {bytes : Bytes} {fails missing : Prop}
  {flow : Flow} (h : Outcome origin answer bytes fails missing flow session)

include h

/-- An answer is reported complete only when it was sent to its end. -/
theorem of_responseComplete (hflow : flow = .close .responseComplete) :
    ¬ missing ∧ answer.kind ≠ .staticFile ∧
      session.transport.sent = origin.transport.sent ++ (answer.head ++ bytes) := by
  cases h with
  | completes hstands hthere hkind hphase hsent => exact ⟨hthere, hkind, hsent⟩
  | goesOn | awaits | isOver | unavailable => cases hflow

/-- Another request is awaited only when the answer was sent to its end. -/
theorem of_awaitingHeaders (hawaits : session.phase = .awaitingHeaders) :
    ¬ missing ∧ answer.kind = .staticFile ∧
      session.transport.sent = origin.transport.sent ++ (answer.head ++ bytes) := by
  cases h with
  | awaits hstands hthere hkind hphase hsent => exact ⟨hthere, hkind, hsent⟩
  | goesOn bodySent hstands hthere h => cases h.phase_eq.symm.trans hawaits
  | completes hstands hthere hkind hphase | isOver hfails hphase
  | unavailable hstands hmissing hkind hphase => cases hphase.symm.trans hawaits

/-- A failure is reported exactly if the connection fails for good. -/
theorem transportFailed_iff : flow = .close .transportFailed ↔ fails := by
  cases h <;> simp_all

/-- A session that does not go on is over. -/
theorem phase_eq_closed (hflow : flow ≠ .keep) : session.phase = .closed := by
  cases h <;> simp_all

/-- A frame is reported unavailable exactly if the connection stands, the head was sent and the
frame is not there. -/
theorem frameUnavailable_iff : flow = .close .frameUnavailable ↔
    answer.kind = .still ∧ ¬ fails ∧
      origin.transport.sent ++ answer.head <+: session.transport.sent ∧ missing := by
  cases h with
  | unavailable hstands hmissing hkind hphase bodySent hsent =>
    refine ⟨fun _ => ⟨hkind, hstands, ?_, hmissing⟩, fun _ => rfl⟩
    rw [hsent, ← List.append_assoc]
    exact List.prefix_append _ _
  | goesOn bodySent hstands hthere h =>
    refine ⟨nofun, fun ⟨_, _, hhead, hmissing⟩ => ?_⟩
    -- A session that goes on without its frame has not even sent the head.
    have hshort := hthere hmissing
    rw [h.sent_eq, h.bodySent_eq_zero hshort, List.take_zero, List.append_nil] at hhead
    have hlength := ((List.prefix_append_right_inj _).mp hhead).length_le
    rw [List.length_take] at hlength
    omega
  | completes hstands hthere | awaits hstands hthere =>
    exact ⟨nofun, fun hmissing => absurd hmissing.2.2.2 hthere⟩
  | isOver hfails => exact ⟨nofun, fun hstands => absurd hfails hstands.2.1⟩

end Outcome

namespace Answers

variable {origin session : Session} {answer : OneShot} {bytes : Bytes} {bodySent : Nat}

/-- A session that was asked for a route begins with its answer. -/
theorem begin (origin : Session) {files : FileSystem} {sources : Registry} {route : Route}
    (hanswer : route.oneShot? files sources = some answer) (bytes : Bytes) :
    Answers origin answer bytes 0 (origin.respond files sources route) := by
  -- The four answers that stand in their heads differ in these alone.
  have hcanned (kind : RouteKind) (head : Bytes) (h : kind.isCanned = true) :
      Answers origin (.canned kind head h) bytes 0 (origin.answering kind head) :=
    ⟨rfl, rfl, Nat.zero_le _, fun _ => rfl, Nat.zero_le _, trivial, by simp [answering]⟩
  cases route with
  | badRequest => cases hanswer; exact hcanned _ _ rfl
  | authRequired => cases hanswer; exact hcanned _ _ rfl
  | notFound => cases hanswer; exact hcanned _ _ rfl
  | streamInfo => cases hanswer; exact hcanned _ _ rfl
  | stream source => cases hanswer
  | still source =>
    obtain ⟨store, hstore, rfl⟩ := Option.map_eq_some_iff.mp hanswer
    rw [respond]
    simp only [hstore]
    exact ⟨rfl, rfl, Nat.zero_le _, fun _ => rfl, Nat.zero_le _, rfl, by simp [answering]⟩
  | staticFile path length mediaType =>
    rw [Route.oneShot?] at hanswer
    split at hanswer
    next number hopen =>
      cases hanswer
      rw [respond]
      simp only [hopen]
      exact ⟨rfl, rfl, Nat.zero_le _, fun _ => rfl, Nat.zero_le _, rfl, by simp [answering]⟩
    next => cases hanswer

/-- The invariant is kept when more of the body becomes known. -/
theorem mono (h : Answers origin answer bytes bodySent session) {bytes' : Bytes}
    (hbytes : bytes <+: bytes') : Answers origin answer bytes' bodySent session :=
  { h with
    bodySent_le := Nat.le_trans h.bodySent_le hbytes.length_le
    sent_eq := by
      obtain ⟨rest, rfl⟩ := hbytes
      rw [h.sent_eq, List.take_append_of_le_length h.bodySent_le] }

/-- What the network does to the connection does not matter, as long as the peer keeps what it was
given. -/
theorem withTransport (h : Answers origin answer bytes bodySent session) {transport : Transport}
    (hsent : transport.sent = session.transport.sent) :
    Answers origin answer bytes bodySent { session with transport } :=
  { h with
    isAt := h.isAt.congr rfl rfl
    sent_eq := hsent.trans h.sent_eq }

/-- A beginning of the answer was sent. -/
theorem hasSent (h : Answers origin answer bytes bodySent session) :
    HasSent origin answer.head bytes session := by
  refine ⟨answer.head.take session.responseSent ++ bytes.take bodySent, ?_, ?_⟩
  · rw [h.sent_eq, List.append_assoc]
  · by_cases hhead : session.responseSent < answer.head.length
    · rw [h.bodySent_eq_zero hhead, List.take_zero, List.append_nil]
      exact (List.take_prefix _ _).trans (List.prefix_append _ _)
    · rw [List.take_of_length_le (Nat.not_lt.mp hhead)]
      exact (List.prefix_append_right_inj _).mpr (List.take_prefix _ _)

variable (now : Nat) (files : FileSystem) (sources : Registry) {missing : Prop}

/-- To send the body comes to one of the outcomes if everything stands in the head. -/
theorem sendBody_of_none (h : Answers origin answer bytes bodySent session)
    (hhead : session.responseSent = answer.head.length) (hbody : answer.body = .none)
    (hsupplied : answer.body.IsSupplied files sources bytes missing) :
    Outcome origin answer bytes (session.BodyFails files sources answer.kind) missing
      (session.sendBody now files sources answer.kind).1
      (session.sendBody now files sources answer.kind).2 := by
  have hkind := answer.isFor
  rw [hbody] at hkind hsupplied
  obtain ⟨rfl, hthere⟩ := hsupplied
  have hsent := h.sent_eq
  rw [hhead, List.take_length, List.take_nil, List.append_nil] at hsent
  have hsend : session.sendBody now files sources answer.kind = session.finish := by
    cases hk : answer.kind <;> simp_all [Body.IsFor, RouteKind.isCanned, sendBody]
  have hstands : ¬ session.BodyFails files sources answer.kind := by
    rintro ⟨offered, hoffer, -⟩
    cases hk : answer.kind <;> simp_all [Body.IsFor, RouteKind.isCanned, bodyOffer?]
  rw [hsend]
  refine .completes hstands hthere ?_ rfl ?_
  · rintro hk
    simp [hk, Body.IsFor, RouteKind.isCanned] at hkind
  · rw [List.append_nil]
    exact hsent

/-- The bytes of the body come after the head. -/
theorem sent_eq_of_head (h : Answers origin answer bytes bodySent session)
    (hhead : session.responseSent = answer.head.length) :
    session.transport.sent =
      origin.transport.sent ++ (answer.head ++ bytes.take bodySent) := by
  rw [h.sent_eq, hhead, List.take_length, List.append_assoc]

/-- Bytes from the front of the rest of the body come after what was sent of it. -/
theorem sent_eq_of_write (h : Answers origin answer bytes bodySent session)
    (hhead : session.responseSent = answer.head.length) {offered : Slice} {transport : Transport}
    {count : Nat} (hoffered : offered.toBytes <+: bytes.drop bodySent)
    (hcount : count ≤ offered.length)
    (hsent : transport.sent = session.transport.sent ++ offered.toBytes.take count) :
    transport.sent = origin.transport.sent ++ (answer.head ++ bytes.take (bodySent + count)) ∧
      bodySent + count ≤ bytes.length := by
  obtain ⟨rest, hrest⟩ := hoffered
  have hlength := congrArg List.length hrest
  rw [List.length_append, List.length_drop, Slice.length_toBytes] at hlength
  have hbodySent := h.bodySent_le
  have htake : (bytes.drop bodySent).take count = offered.toBytes.take count := by
    rw [← hrest, List.take_append_of_le_length (by rwa [Slice.length_toBytes])]
  refine ⟨?_, by omega⟩
  rw [hsent, h.sent_eq_of_head hhead, List.take_add, htake]
  simp only [List.append_assoc]

/-- A session that moves on in the body keeps the invariant. -/
theorem moveOn (h : Answers origin answer bytes bodySent session)
    (hhead : session.responseSent = answer.head.length) {next : Session} {moved : Nat}
    (hphase : next.phase = session.phase) (hresponse : next.response = session.response)
    (hresponseSent : next.responseSent = session.responseSent) (hmoved : moved ≤ bytes.length)
    (hat : answer.body.IsAt next moved)
    (hsent : next.transport.sent = origin.transport.sent ++ (answer.head ++ bytes.take moved)) :
    Answers origin answer bytes moved next where
  phase_eq := hphase.trans h.phase_eq
  response_eq := hresponse.trans h.response_eq
  responseSent_le := hresponseSent ▸ h.responseSent_le
  bodySent_eq_zero hshort := absurd (hresponseSent.trans hhead) (Nat.ne_of_lt hshort)
  bodySent_le := hmoved
  isAt := hat
  sent_eq := by rw [hsent, hresponseSent, hhead, List.take_length, List.append_assoc]

/-- To send the body comes to one of the outcomes if it is an image. -/
theorem sendBody_of_frame (h : Answers origin answer bytes bodySent session)
    (hhead : session.responseSent = answer.head.length) {source sequence : Nat}
    (hbody : answer.body = .frame source sequence)
    (hsupplied : answer.body.IsSupplied files sources bytes missing) :
    Outcome origin answer bytes (session.BodyFails files sources answer.kind) missing
      (session.sendBody now files sources answer.kind).1
      (session.sendBody now files sources answer.kind).2 := by
  have hkind : answer.kind = .still := by
    have hfor := answer.isFor
    rwa [hbody] at hfor
  have hcursor := h.isAt
  rw [hbody] at hcursor hsupplied
  obtain ⟨store, payloads, hstore, hrecords, hsequence, hbytes, hmissing⟩ := hsupplied
  have hoffer : session.bodyOffer? files sources answer.kind =
      Cursor.unsentPayload? ⟨source, sequence, bodySent⟩ store := by
    rw [hkind, bodyOffer?, hcursor, Option.bind_some, hstore, Option.bind_some]
  have hsend : session.sendBody now files sources answer.kind = session.sendStill now sources := by
    rw [hkind, sendBody]
  have hnot : answer.kind ≠ .staticFile := by
    rw [hkind]
    decide
  have hnone := Cursor.unsentPayload?_eq_none_iff ⟨source, sequence, bodySent⟩ hrecords hsequence
  rw [← hmissing] at hnone
  rw [hsend]
  rcases session.sendStill_cases now sources hcursor hstore with
    ⟨hgone, hresult⟩ | ⟨offered, hoffered, hresult⟩
  · -- The frame is not there, and without one there is nothing to offer.
    rw [hresult]
    refine .unavailable ?_ (hnone.mp hgone) hkind rfl bodySent (h.sent_eq_of_head hhead)
    rintro ⟨offered, hsome, -⟩
    rw [hoffer, hgone] at hsome
    cases hsome
  · have hthere : ¬ missing := by
      rw [← hnone, hoffered]
      exact Option.some_ne_none _
    have hrest : offered.toBytes = bytes.drop bodySent := by
      rw [hbytes]
      exact Cursor.toBytes_of_unsentPayload? _ hrecords hsequence hoffered
    have hlength := congrArg List.length hrest
    rw [Slice.length_toBytes, List.length_drop] at hlength
    have hall (sent : Nat) (hsent : bytes.length ≤ sent) : bytes.take sent = bytes :=
      List.take_of_length_le hsent
    rw [bodyFails_iff files sources (hoffer.trans hoffered)]
    rcases hresult with ⟨hempty, hresult⟩ | ⟨hsome, ⟨hfails, transport, hsent, hresult⟩ |
      ⟨hstands, count, transport, hcount, hsent, hresult⟩⟩
    · -- An image without bytes is complete before anything of it is sent.
      rw [hresult]
      have hnil : offered.length = 0 := by simpa [Slice.isEmpty] using hempty
      have hsent := h.sent_eq_of_head hhead
      rw [hall bodySent (by omega)] at hsent
      exact .completes (by simp [hempty]) hthere hnot rfl hsent
    · rw [hresult]
      exact .isOver ⟨hsome, hfails⟩ rfl (h.withTransport hsent).hasSent
    · -- With the last byte of the image the answer is complete.
      rw [hresult]
      obtain ⟨hsent, hle⟩ := h.sent_eq_of_write hhead (hrest ▸ List.prefix_rfl) hcount hsent
      by_cases hleft : count < offered.length
      · rw [if_pos hleft]
        refine .goesOn (bodySent + count) (fun hfails => hstands hfails.2)
          (fun hgone => absurd hgone hthere) (h.moveOn hhead rfl rfl rfl hle ?_ hsent)
        rw [hbody]
        rfl
      · rw [if_neg hleft]
        rw [hall _ (by omega)] at hsent
        exact .completes (fun hfails => hstands hfails.2) hthere hnot rfl hsent

/-- To send the body comes to one of the outcomes if it is a file. -/
theorem sendBody_of_file (h : Answers origin answer bytes bodySent session)
    (hhead : session.responseSent = answer.head.length) {number : Nat}
    (hbody : answer.body = .file number)
    (hsupplied : answer.body.IsSupplied files sources bytes missing) :
    Outcome origin answer bytes (session.BodyFails files sources answer.kind) missing
      (session.sendBody now files sources answer.kind).1
      (session.sendBody now files sources answer.kind).2 := by
  have hkind : answer.kind = .staticFile := by
    have hfor := answer.isFor
    rwa [hbody] at hfor
  have hfile := h.isAt
  rw [hbody] at hfile hsupplied
  obtain ⟨hbytes, hthere⟩ := hsupplied
  -- A chunk is read from where the session is in the file, however much of the last chunk the
  -- connection left over.
  obtain ⟨chunk, hread, hchunk⟩ : ∃ chunk,
      files.readSome session.chunkSize (.file number bodySent) = .ok chunk ∧
      chunk.toBytes = (bytes.drop bodySent).take session.chunkSize := by
    refine ⟨_, rfl, ?_⟩
    rw [Slice.toBytes_take, Slice.toBytes_drop, Slice.toBytes_ofArray, hbytes]
  have hoffer : session.bodyOffer? files sources answer.kind = some chunk := by
    rw [hkind, bodyOffer?, hfile, Option.bind_some, hread]
    rfl
  have hsend : session.sendBody now files sources answer.kind = session.sendFile now files := by
    rw [hkind, sendBody]
  have hlength := congrArg List.length hchunk
  rw [Slice.length_toBytes, List.length_take, List.length_drop] at hlength
  rw [hsend, bodyFails_iff files sources hoffer]
  rcases session.sendFile_cases now files hfile hread with
    ⟨hempty, hresult⟩ | ⟨hsome, ⟨hfails, transport, hsent, hresult⟩ |
      ⟨hstands, count, transport, hcount, hsent, hresult⟩⟩
  · rw [hresult]
    -- A chunk is not empty before the end of the file.
    have hend : bytes.length ≤ bodySent := by
      have hnil : chunk.length = 0 := by simpa [Slice.isEmpty] using hempty
      have hpos := session.chunkSize_pos
      omega
    have hsent := h.sent_eq_of_head hhead
    rw [List.take_of_length_le hend] at hsent
    exact .awaits (by simp [hempty]) hthere hkind rfl hsent
  · rw [hresult]
    exact .isOver ⟨hsome, hfails⟩ rfl (h.withTransport hsent).hasSent
  · rw [hresult]
    obtain ⟨hsent, hle⟩ :=
      h.sent_eq_of_write hhead (hchunk ▸ List.take_prefix _ _) hcount hsent
    refine .goesOn (bodySent + count) (fun hfails => hstands hfails.2)
      (fun hgone => absurd hgone hthere) (h.moveOn hhead rfl rfl rfl hle ?_ hsent)
    rw [hbody]
    rfl

/-- To send the body comes to one of the outcomes. -/
theorem sendBody (h : Answers origin answer bytes bodySent session)
    (hhead : session.responseSent = answer.head.length)
    (hsupplied : answer.body.IsSupplied files sources bytes missing) :
    Outcome origin answer bytes (session.BodyFails files sources answer.kind) missing
      (session.sendBody now files sources answer.kind).1
      (session.sendBody now files sources answer.kind).2 := by
  cases hbody : answer.body with
  | none => exact h.sendBody_of_none now files sources hhead hbody hsupplied
  | frame source sequence => exact h.sendBody_of_frame now files sources hhead hbody hsupplied
  | file number => exact h.sendBody_of_file now files sources hhead hbody hsupplied

/-- More bytes of the head are sent. -/
theorem afterHead (h : Answers origin answer bytes bodySent session)
    (hshort : session.responseSent < answer.head.length) (now : Nat) {transport : Transport}
    {count : Nat} (hcount : session.responseSent + count ≤ answer.head.length)
    (hsent : transport.sent = session.transport.sent ++
      (answer.head.drop session.responseSent).take count) :
    Answers origin answer bytes bodySent (session.afterHead now transport count) :=
  { h with
    responseSent_le := hcount
    bodySent_eq_zero := fun _ => h.bodySent_eq_zero hshort
    isAt := h.isAt.congr rfl rfl
    sent_eq := by
      refine hsent.trans ?_
      rw [h.sent_eq, h.bodySent_eq_zero hshort, List.take_zero, List.append_nil, List.append_nil,
        List.append_assoc, ← List.take_add]
      rfl }

/-- To send the rest of the head, and the body after it, comes to one of the outcomes. -/
theorem sendAnswer (h : Answers origin answer bytes bodySent session)
    (hsupplied : answer.body.IsSupplied files sources bytes missing) :
    Outcome origin answer bytes (session.AnswerFails now files sources answer.kind) missing
      (session.sendAnswer now files sources answer.kind).1
      (session.sendAnswer now files sources answer.kind).2 := by
  have hresponse : session.response.toBytes = answer.head := by
    rw [h.response_eq, Slice.toBytes_ofBytes]
  have hlength : session.response.length = answer.head.length := by
    rw [h.response_eq, Slice.length_ofBytes]
  rw [AnswerFails]
  by_cases hshort : session.responseSent < session.response.length
  · rw [if_pos hshort]
    rcases session.sendAnswer_cases now files sources answer.kind hshort with
      ⟨hfails, transport, hsent, hresult⟩ |
      ⟨hstands, count, transport, hcount, hsent, hoffer, hresult⟩
    · rw [hresult]
      exact .isOver (Or.inl hfails) rfl (h.withTransport hsent).hasSent
    · rw [session.headFails_iff files sources answer.kind hstands hoffer, hresult]
      rw [hresponse] at hsent
      rw [hlength] at hshort hcount ⊢
      have hafter := h.afterHead hshort now hcount hsent
      -- The body is looked for in the same event only if nothing is left of the head, so until
      -- then a missing frame goes unnoticed.
      by_cases hleft : session.responseSent + count < answer.head.length
      · rw [if_pos hleft]
        exact .goesOn bodySent (fun hfails => absurd hfails.1 (Nat.ne_of_lt hleft))
          (fun _ => hleft) hafter
      · rw [if_neg hleft]
        have hhead : session.responseSent + count = answer.head.length :=
          Nat.le_antisymm hcount (Nat.not_lt.mp hleft)
        simp only [hhead, true_and]
        exact hafter.sendBody now files sources hhead hsupplied
  · rw [if_neg hshort]
    have hhead : session.responseSent = answer.head.length := by
      have hle := h.responseSent_le
      omega
    have hsend : session.sendAnswer now files sources answer.kind =
        session.sendBody now files sources answer.kind := by
      rw [Session.sendAnswer, if_neg hshort]
    rw [hsend]
    exact h.sendBody now files sources hhead hsupplied

/-- An event of a writable connection comes to one of the outcomes. -/
theorem send (h : Answers origin answer bytes bodySent session)
    (hsupplied : answer.body.IsSupplied files sources bytes missing) :
    Outcome origin answer bytes (session.ConnectionFails now files sources answer.kind) missing
      (session.send now files sources).1 (session.send now files sources).2 := by
  have hflushed := h.withTransport session.transport.sent_flush
  rw [ConnectionFails]
  by_cases hfails : Transport.FailsHard session.transport.flush.1
  · rw [session.send_eq_fail now files sources hfails]
    exact .isOver (Or.inl hfails) rfl hflushed.hasSent
  · rw [session.send_eq_sendPhase now files sources hfails,
      sendPhase_of_draining _ now files sources hflushed.phase_eq]
    simp only [hfails, false_or]
    exact hflushed.sendAnswer now files sources hsupplied

end Answers

end MotionJpeg.Session
