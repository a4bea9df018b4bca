import MotionJpeg.Proofs.Answer.Download
import MotionJpeg.Proofs.Files.Settled
import MotionJpeg.Proofs.Session.Exchange
import MotionJpeg.Proofs.Session.Reading

/-!
# Announced lengths

The head of a file announces the length that the file has when it is routed to. The body is what
the file holds whenever it is read, up to where it ends then, and is not compared with the head. So
the two agree for a file that keeps its length. One that grows or shrinks while it is sent gets a
body of another length, and still the session waits for another request on the connection.

* `Session.exists_downloads_of_receive`: what an answer with a file begins with.
* `Exchange.Sends` is the invariant of a run until the session waits again.
* `Exchange.contentLength_bounds`: the length of the body, by what the file holds along the run.
* `Exchange.contentLength_ne_rewritten`: two files that are rewritten in between.
-/

namespace MotionJpeg

namespace Session

/-- The answer is a file only for the route to a file that can be opened. -/
theorem exists_of_respond (session : Session) {files : FileSystem} {sources : Registry}
    {route : Route}
    (h : (session.respond files sources route).phase = .draining .staticFile) :
    ∃ path length mediaType file, route = .staticFile path length mediaType ∧
      files.openFile path = .ok file := by
  cases route with
  | badRequest | authRequired | notFound | streamInfo => cases h
  | stream source | still source =>
    rw [respond] at h
    split at h <;> cases h
  | staticFile path length mediaType =>
    rw [respond] at h
    split at h
    · cases h
    next file hopen => exact ⟨path, length, mediaType, file, rfl, hopen⟩

/-- What was read begins an answer with a file only if it completes a request. -/
theorem exists_of_gather {session : Session} (hphase : session.phase = .awaitingHeaders)
    {router : Router} {files : FileSystem} {sources : Registry} {bytes : Bytes}
    (h : (session.gather router files sources bytes).phase = .draining .staticFile) :
    ∃ request, session.gather router files sources bytes =
      { session with request := [] }.respond files sources
        (router.route files request sources.size) := by
  cases hend : Http.headEnd? (session.request ++ bytes) with
  | some e => exact ⟨_, gather_of_some hend router files sources⟩
  | none =>
    -- At most the refusal of a long request begins.
    simp only [gather, hend] at h
    split at h
    · cases h
    · rw [hphase] at h
      cases h

/-- An attempt to read begins with a file only if it reads something. -/
theorem exists_gather_of_receive {session : Session} (hphase : session.phase = .awaitingHeaders)
    {now : Nat} {router : Router} {files : FileSystem} {sources : Registry}
    (h : (session.receive now router files sources).2.phase = .draining .staticFile) :
    ∃ transport bytes, transport.sent = session.transport.sent ∧
      (session.receive now router files sources).2 =
        (session.afterRead now transport bytes).gather router files sources bytes := by
  have hsent := session.transport.sent_read session.readSize
  cases hread : session.transport.read session.readSize with
  | mk result transport =>
    rw [hread] at hsent
    cases result with
    | error error =>
      cases htransient : error.isTransient with
      | true =>
        rw [receive_of_transient hphase now router files sources htransient hread, hphase] at h
        cases h
      | false =>
        rw [receive, wantsRead_of_awaitingHeaders hphase] at h
        simp [hread, htransient, fail] at h
    | ok bytes =>
      by_cases hempty : bytes = []
      · rw [hempty] at hread
        rw [receive_of_nil hphase now router files sources hread, hphase] at h
        cases h
      · exact ⟨transport, bytes, hsent, receive_of_ok hphase now router files sources hempty hread⟩

/-- An answer with a file begins with a head that announces the length of the file, and with none of
its bytes. -/
theorem exists_downloads_of_receive {session : Session} (hphase : session.phase = .awaitingHeaders)
    {now : Nat} {router : Router} {files : FileSystem} {sources : Registry}
    (h : (session.receive now router files sources).2.phase = .draining .staticFile) :
    ∃ number mediaType, Downloads session.transport.sent
      (Http.Reply.fileHeader (files.content number).size mediaType) number []
      (session.receive now router files sources).2 := by
  obtain ⟨transport, bytes, hsent, hreceive⟩ := exists_gather_of_receive hphase h
  rw [hreceive] at h ⊢
  have hafter : (session.afterRead now transport bytes).phase = .awaitingHeaders := hphase
  obtain ⟨request, hgather⟩ := exists_of_gather hafter h
  rw [hgather] at h ⊢
  -- The file was routed to and opened with the same event, so it is the one that was measured.
  obtain ⟨path, length, mediaType, file, hroute, hopen⟩ := exists_of_respond _ h
  obtain ⟨root, hstatic⟩ := Router.exists_staticRoute_of_route hroute
  obtain ⟨number, rfl, rfl⟩ := Router.openFile_of_staticRoute hstatic hopen
  rw [hroute, ← hsent]
  exact ⟨number, mediaType, Downloads.respond
    { session.afterRead now transport bytes with request := [] } hopen sources _ mediaType⟩

end Session

namespace Exchange

/-- The file is not longer than `bound` when the connection is writable. -/
def Event.Within (number bound : Nat) : Event → Prop
  | send _ files => (files.content number).size ≤ bound
  | push _ | network _ | receive .. => True

instance (number bound : Nat) : DecidablePred (Event.Within number bound)
  | .send _ files => inferInstanceAs (Decidable ((files.content number).size ≤ bound))
  | .push _ | .network _ | .receive .. => inferInstanceAs (Decidable True)

/-- The session waits for a request after the last of some events, and not before. -/
def Returns (exchange : Exchange) (events : List Event) : Prop :=
  exchange.Throughout (fun exchange _ => exchange.session.phase ≠ .awaitingHeaders) events ∧
    (exchange.run events).session.phase = .awaitingHeaders

instance (exchange : Exchange) (events : List Event) : Decidable (exchange.Returns events) :=
  inferInstanceAs (Decidable (_ ∧ _))

/-- After some events the session still sends the file, or its connection has failed. -/
inductive Sends (earlier head : Bytes) (number : Nat) (events : List Event) (session : Session) :
    Prop where
  | goesOn (body : Bytes) (h : Session.Downloads earlier head number body session)
    (hbody : ∀ bound, (∀ event ∈ events, event.Within number bound) → body.length ≤ bound)
  | isOver (hphase : session.phase = .closed)

section Run

variable {earlier head : Bytes} {number : Nat} {events : List Event} {exchange : Exchange}

/-- As long as the session does not wait again every event keeps the invariant. The event with
which it does is an attempt to send that comes upon the end of the file. -/
theorem Sends.step (h : Sends earlier head number events exchange.session) (event : Event) :
    Sends earlier head number (events ++ [event]) (exchange.step event).session ∨
    ∃ now files body, event = .send now files ∧
      (exchange.step event).session.phase = .awaitingHeaders ∧
      (exchange.step event).session.transport.sent = earlier ++ (head ++ body) ∧
      (files.content number).size ≤ body.length ∧
      ∀ bound, (∀ passed ∈ events ++ [event], passed.Within number bound) →
        body.length ≤ bound := by
  cases h with
  | isOver hphase =>
    refine Or.inl (.isOver ?_)
    cases event with
    | push offered | network future => exact hphase
    | receive now router files =>
      have hne : exchange.session.phase ≠ .awaitingHeaders := by
        rw [hphase]
        exact Phase.noConfusion
      exact (congrArg Session.phase (Session.receive_eq_self hne now router files _)).trans hphase
    | send now files => exact (Session.send_of_closed _ now files exchange.sources hphase).1
  | goesOn body h hbody =>
    -- Only an attempt to send makes the body longer.
    have hmono (bound : Nat)
        (hwithin : ∀ passed ∈ events ++ [event], passed.Within number bound) :
        body.length ≤ bound :=
      hbody bound fun passed hpassed => hwithin passed (List.mem_append_left _ hpassed)
    cases event with
    | push offered => exact Or.inl (.goesOn body h hmono)
    | network future => exact Or.inl (.goesOn body (h.withTransport rfl) hmono)
    | receive now router files =>
      have hne : exchange.session.phase ≠ .awaitingHeaders := by
        rw [h.phase_eq]
        exact Phase.noConfusion
      have hsame : (exchange.step (.receive now router files)).session = exchange.session :=
        Session.receive_eq_self hne now router files exchange.sources
      exact Or.inl (.goesOn body (hsame ▸ h) hmono)
    | send now files =>
      have hsend := h.send now files exchange.sources
      generalize hnext : exchange.session.send now files exchange.sources = next at hsend
      obtain ⟨flow, session⟩ := next
      have hstep : (exchange.step (.send now files)).session = session := by
        rw [Exchange.step, hnext]
      rw [hstep]
      cases hsend with
      | goesOn more hmore h =>
        refine Or.inl (.goesOn (body ++ more) h fun bound hwithin => ?_)
        -- What was added lies within the file as it is now.
        have hsize : (files.content number).size ≤ bound :=
          hwithin (.send now files) (List.mem_append_right _ (List.mem_singleton_self _))
        have hold := hmono bound hwithin
        have hnew := hmore.length_le
        have hlength : (files.content number).toList.length = (files.content number).size :=
          Array.length_toList
        rw [List.length_drop] at hnew
        rw [List.length_append]
        omega
      | ends hend hphase hrequest hsent =>
        exact Or.inr ⟨now, files, body, rfl, hphase, hsent, hend, hmono⟩
      | fails hphase written hwritten hsent => exact Or.inl (.isOver hphase)

/-- The invariant holds as long as the session does not wait again. -/
theorem Sends.run (h : Sends earlier head number [] exchange.session)
    (hbusy : exchange.Throughout (fun exchange _ => exchange.session.phase ≠ .awaitingHeaders)
      events)
    (hphase : (exchange.run events).session.phase ≠ .awaitingHeaders) :
    Sends earlier head number events (exchange.run events).session := by
  induction events using List.reverseRecOn with
  | nil => exact h
  | append_singleton events event ih =>
    obtain ⟨hbusy, hbefore⟩ := throughout_concat_iff.mp hbusy
    rw [run_concat] at hphase ⊢
    refine ((ih hbusy hbefore).step event).resolve_right ?_
    rintro ⟨now, files, body, -, hawaits, -⟩
    exact hphase hawaits

end Run

/-- The body of a file reaches to where the file ends when the session comes upon its end, and is
not longer than the file ever was when some of it was sent. So it has the announced length if the
file is never longer, and is not shorter at the end. -/
theorem contentLength_bounds (start : Exchange)
    (hwaits : start.session.phase = .awaitingHeaders) (now : Nat) (router : Router)
    (files : FileSystem) (events : List Event) :
    let begun := start.step (.receive now router files)
    begun.session.phase = .draining .staticFile → begun.Returns events →
    ∃ number mediaType body,
      let final := begun.run events
      let length := (files.content number).size
      let head := Http.Reply.fileHeader length mediaType
      begun.session.response.toBytes = head ∧ begun.session.file = some (.file number 0) ∧
      final.session.transport.sent = start.session.transport.sent ++ (head ++ body) ∧
      ∃ done later last, events = done ++ [.send later last] ∧
        (last.content number).size ≤ body.length ∧
        (∀ bound, (∀ event ∈ events, event.Within number bound) → body.length ≤ bound) ∧
        ((∀ event ∈ events, event.Within number length) → length ≤ (last.content number).size →
          body.length = length) := by
  intro begun hserves hreturns
  obtain ⟨number, mediaType, h⟩ := Session.exists_downloads_of_receive hwaits hserves
  have hresponse : begun.session.response = .ofBytes _ := h.response_eq
  have hbegun : Sends start.session.transport.sent _ number [] begun.session :=
    .goesOn [] h fun bound _ => Nat.zero_le bound
  obtain ⟨hbusy, hawaits⟩ := hreturns
  -- The last event is the one with which the session waits again.
  rcases List.eq_nil_or_concat' events with rfl | ⟨done, event, rfl⟩
  · rw [run_nil, hserves] at hawaits
    cases hawaits
  obtain ⟨hbusy, hbefore⟩ := throughout_concat_iff.mp hbusy
  rw [run_concat] at hawaits ⊢
  rcases (hbegun.run hbusy hbefore).step event with
    hsends | ⟨later, last, body, rfl, -, hsent, hend, hbody⟩
  · -- A session that still sends does not wait.
    cases hsends with
    | goesOn body h hbody => rw [h.phase_eq] at hawaits; cases hawaits
    | isOver hphase => rw [hphase] at hawaits; cases hawaits
  · refine ⟨number, mediaType, body, by rw [hresponse, Slice.toBytes_ofBytes], h.file_eq, hsent,
      done, later, last, rfl, hend, hbody, fun hwithin hlength => ?_⟩
    exact Nat.le_antisymm (hbody _ hwithin) (Nat.le_trans hlength hend)

section Rewritten

/-- A root with one file that holds this text. -/
def rootWith (text : String) : FileSystem where
  entries := [([[119]], .directory), ([[119], [97]], .file 0)]
  contents := [(Bytes.ofString text).toArray]

/-- A server that serves the files of this root. -/
def rootRouter : Router where
  staticRoot := some (.ofString "/w")

/-- A connection on which the file is asked for. At first it takes the head and one byte. -/
def fileViewer : Exchange where
  session := .new 1 (.v4 .loopback 5000)
    { arrivals := [.data (.ofString "GET /a HTTP/1.1\x0d\n\x0d\n")]
      outcomes := [.all, .upTo 1] } 4096 16384 0
  sources := .ofSizes [] 640 480

/-- A file that is rewritten while it is sent, and keeps its length, gets a body of the announced
length. -/
theorem contentLength_bounds_fileViewer :
    let begun := fileViewer.step (.receive 1 rootRouter (rootWith "hi"))
    let events : List Event :=
      [.send 2 (rootWith "hi"), .send 3 (rootWith "ho"), .send 4 (rootWith "ho")]
    fileViewer.session.phase = .awaitingHeaders ∧ begun.session.phase = .draining .staticFile ∧
    begun.Returns events ∧
    (begun.run events).session.transport.sent =
      Http.Reply.fileHeader 2 "application/octet" ++ .ofString "ho" ∧
    ∃ number mediaType body,
      let final := begun.run events
      let length := ((rootWith "hi").content number).size
      let head := Http.Reply.fileHeader length mediaType
      begun.session.response.toBytes = head ∧ begun.session.file = some (.file number 0) ∧
      final.session.transport.sent = fileViewer.session.transport.sent ++ (head ++ body) ∧
      ∃ done later last, events = done ++ [.send later last] ∧
        (last.content number).size ≤ body.length ∧
        (∀ bound, (∀ event ∈ events, event.Within number bound) → body.length ≤ bound) ∧
        ((∀ event ∈ events, event.Within number length) → length ≤ (last.content number).size →
          body.length = length) := by
  have hserves : (fileViewer.step (.receive 1 rootRouter (rootWith "hi"))).session.phase =
      .draining .staticFile := by
    decide +kernel
  have hreturns : (fileViewer.step (.receive 1 rootRouter (rootWith "hi"))).Returns
      [.send 2 (rootWith "hi"), .send 3 (rootWith "ho"), .send 4 (rootWith "ho")] := by
    decide +kernel
  exact ⟨rfl, hserves, hreturns, by decide +kernel, contentLength_bounds fileViewer rfl 1
    rootRouter (rootWith "hi") _ hserves hreturns⟩

/-- The same file gets eight bytes of body after it has grown, and one byte after it was cut. Two
were announced either time, and either time the session waits for another request. -/
theorem contentLength_ne_rewritten :
    let begun := fileViewer.step (.receive 1 rootRouter (rootWith "hi"))
    let grown := (begun.run (List.replicate 3 (.send 2 (rootWith "hi there")))).session
    let cut := (begun.run (List.replicate 2 (.send 2 (rootWith "h")))).session
    let head := Http.Reply.fileHeader 2 "application/octet"
    begun.session.response.toBytes = head ∧
      grown.phase = .awaitingHeaders ∧ grown.transport.sent = head ++ .ofString "hi there" ∧
      cut.phase = .awaitingHeaders ∧ cut.transport.sent = head ++ .ofString "h" := by
  decide +kernel

end Rewritten

end Exchange

end MotionJpeg
