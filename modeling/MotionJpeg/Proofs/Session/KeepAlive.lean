import MotionJpeg.Proofs.Answer.Download
import MotionJpeg.Proofs.Session.Framing
import MotionJpeg.Proofs.Session.Input

/-!
# Several requests on one connection

After a file the session waits for another request on its connection. What it has read behind the
blank line of a request is dropped together with that request. So all requests for files are
answered in their order as long as no attempt to read goes past a blank line, and some may be lost
if one does.

* `FileRequest` is a request for a file, with the answer that it is to get.
* `Session.readsPast`: the next attempt to read goes past a blank line.
* `Session.Awaits` and `Session.Downloads` are about one request, `Session.Serves` is the invariant
  of a session that answers several.
* `Exchange.serves_run`: the invariant holds along every run.
* `Exchange.answers_of_readsApart`: requests that are read apart are all answered.
* `Exchange.answers_lost_together`: two requests that are read at once.
-/

namespace MotionJpeg

/-- A request for a file of a server with this many sources, that is no longer than the limit. -/
structure FileRequest (router : Router) (files : FileSystem) (sources limit : Nat) where
  /-- The bytes before the blank line. -/
  head : Bytes
  path : Path
  length : Nat
  mediaType : String
  /-- The number of the file's contents. -/
  number : Nat
  /-- No blank line is before the end of the head. -/
  headEnd?_eq : Http.headEnd? (head ++ Http.blankLine) = some head.length
  length_le : (head ++ Http.blankLine).length ≤ limit
  route_eq : router.route files (.parse head) sources = .staticFile path length mediaType
  openFile_eq : files.openFile path = .ok (.file number 0)

namespace FileRequest

variable {router : Router} {files : FileSystem} {sources limit : Nat}
  (request : FileRequest router files sources limit)

/-- What the client sends. -/
def bytes : Bytes := request.head ++ Http.blankLine

/-- The head of the answer. -/
def answerHead : Bytes := Http.Reply.fileHeader request.length request.mediaType

/-- The body of the answer. -/
def body : Bytes := (files.content request.number).toList

/-- What the client is to be sent. -/
def answer : Bytes := request.answerHead ++ request.body

/-- The blank line of a request is found whatever follows it. -/
theorem headEnd?_append (rest : Bytes) :
    Http.headEnd? (request.bytes ++ rest) = some request.head.length :=
  (Http.headEnd?_append request.headEnd?_eq rest).1

theorem length_bytes : request.bytes.length = request.head.length + Http.blankLine.length :=
  List.length_append

variable {todo : List (FileRequest router files sources limit)} {got rest : Bytes}

/-- Some bytes at the front of several requests belong to the first of them at least. -/
theorem exists_cons_of_append (hne : got ≠ []) (hdata : got ++ rest = todo.flatMap bytes) :
    ∃ current later, todo = current :: later ∧ got ++ rest = current.bytes ++ later.flatMap bytes ∧
      Http.headEnd? (got ++ rest) = some current.head.length := by
  cases todo with
  | nil => simp [hne] at hdata
  | cons current later =>
    rw [List.flatMap_cons] at hdata
    exact ⟨current, later, rfl, hdata, hdata ▸ current.headEnd?_append _⟩

/-- Without a blank line they are fewer than the limit. -/
theorem length_lt_of_append (hne : got ≠ []) (hdata : got ++ rest = todo.flatMap bytes)
    (hnone : Http.headEnd? got = none) : got.length < limit := by
  obtain ⟨current, later, -, -, hend⟩ := exists_cons_of_append hne hdata
  exact Nat.lt_of_lt_of_le (Http.length_lt_of_headEnd? hnone hend)
    (current.length_bytes ▸ current.length_le)

/-- With a blank line at their end they are the first request. -/
theorem eq_bytes_of_append (hne : got ≠ []) (hdata : got ++ rest = todo.flatMap bytes) {e : Nat}
    (hend : Http.headEnd? got = some e) (hlength : got.length ≤ e + Http.blankLine.length) :
    ∃ current later, todo = current :: later ∧ got = current.bytes ∧ e = current.head.length ∧
      rest = later.flatMap bytes := by
  obtain ⟨current, later, htodo, hsplit, hfirst⟩ := exists_cons_of_append hne hdata
  obtain ⟨hsame, hle⟩ := Http.headEnd?_append hend rest
  obtain rfl : e = current.head.length := Option.some.inj (hsame.symm.trans hfirst)
  have hsize : got.length = current.bytes.length := by
    rw [current.length_bytes]
    exact Nat.le_antisymm hlength hle
  obtain ⟨hgot, hrest⟩ := List.append_inj hsplit hsize
  exact ⟨current, later, htodo, hgot, rfl, hrest⟩

end FileRequest

namespace Session

/-- The next attempt to read completes a request and takes bytes behind the blank line. -/
def readsPast (session : Session) : Bool :=
  session.wantsRead &&
    match (session.transport.read session.readSize).1 with
    | .ok bytes =>
      let request := session.request ++ bytes
      (Http.headEnd? request).any fun e => e + Http.blankLine.length < request.length
    | .error _ => false

/-- These bytes are still to be looked at, some of which the session has gathered already. -/
structure Holds (limit : Nat) (data : Bytes) (session : Session) : Prop where
  headerLimit_eq : session.headerLimit = limit
  delivers : session.transport.Delivers
  data_eq : session.request ++ session.transport.unread = data

/-- The session has sent `earlier` and waits for the rest of a request. -/
structure Awaits (earlier : Bytes) (limit : Nat) (data : Bytes) (session : Session) : Prop
    extends Holds limit data session where
  phase_eq : session.phase = .awaitingHeaders
  sent_eq : session.transport.sent = earlier
  headEnd?_eq : Http.headEnd? session.request = none
  length_lt : session.request.length < session.headerLimit

section Input

variable {earlier : Bytes} {limit : Nat} {data : Bytes} {session : Session}

/-- What leaves the input alone leaves it to be looked at. -/
theorem Holds.keep (h : Holds limit data session) {next : Session}
    (hkeeps : session.KeepsInput next) (hrequest : next.request = session.request) :
    Holds limit data next where
  headerLimit_eq := hkeeps.headerLimit_eq.trans h.headerLimit_eq
  delivers := by
    rw [Transport.Delivers, hkeeps.arrivals_eq]
    exact h.delivers
  data_eq := by
    rw [hrequest, Transport.unread, hkeeps.arrivals_eq]
    exact h.data_eq

/-- A session that has just answered a request waits for the next one. -/
theorem Holds.awaits (h : Holds limit data session) (hphase : session.phase = .awaitingHeaders)
    (hrequest : session.request = []) : Awaits session.transport.sent limit data session :=
  { h with
    phase_eq := hphase
    sent_eq := rfl
    headEnd?_eq := by
      rw [hrequest]
      rfl
    length_lt := by
      rw [hrequest]
      exact Nat.lt_of_lt_of_le (by decide) session.minHeaderLimit_le }

/-- A delay changes nothing. -/
theorem Awaits.delay (h : Awaits earlier limit data session) {transport : Transport}
    (hdelivers : transport.Delivers) (hsent : transport.sent = session.transport.sent)
    (hunread : session.transport.unread = transport.unread) :
    Awaits earlier limit data { session with transport } :=
  { h with
    delivers := hdelivers
    data_eq := by rw [← h.data_eq, hunread]
    sent_eq := hsent.trans h.sent_eq }

/-- An attempt to send finds nothing to send, or finds that the connection has failed. -/
theorem Awaits.send (h : Awaits earlier limit data session) (now : Nat) (files : FileSystem)
    (sources : Registry) :
    Awaits earlier limit data (session.send now files sources).2 ∨
      (session.send now files sources).1 = .close .transportFailed ∧
        (session.send now files sources).2.phase = .closed ∧
        (session.send now files sources).2.transport.sent = earlier := by
  by_cases hfails : Transport.FailsHard session.transport.flush.1
  · rw [session.send_eq_fail now files sources hfails]
    exact Or.inr ⟨rfl, rfl, session.transport.sent_flush.trans h.sent_eq⟩
  · rw [session.send_eq_sendPhase now files sources hfails, sendPhase_of_awaitingHeaders]
    · have hkeeps : session.KeepsInput { session with transport := session.transport.flush.2 } :=
        ⟨session.transport.arrivals_flush, rfl, Or.inl rfl⟩
      exact Or.inl
        { h with
          toHolds := h.toHolds.keep hkeeps rfl
          sent_eq := session.transport.sent_flush.trans h.sent_eq }
    · exact h.phase_eq

/-- A read that does not go past the blank line ends with it at the latest. -/
theorem length_le_of_readsPast (hphase : session.phase = .awaitingHeaders)
    (hpast : session.readsPast = false) {bytes : Bytes} {transport : Transport}
    (hread : session.transport.read session.readSize = (.ok bytes, transport)) {e : Nat}
    (hend : Http.headEnd? (session.request ++ bytes) = some e) :
    (session.request ++ bytes).length ≤ e + Http.blankLine.length := by
  rw [readsPast, wantsRead_of_awaitingHeaders hphase, hread] at hpast
  simpa [hend] using hpast

end Input

section Serves

variable {router : Router} {files : FileSystem} {count limit : Nat}

/-- After the bytes of `earlier` the session answers some requests for files in their order. -/
inductive Serves (earlier : Bytes) (requests : List (FileRequest router files count limit))
    (session : Session) : Prop where
  /-- The session has answered some requests. -/
  | waits (done todo : List (FileRequest router files count limit))
    (hrequests : requests = done ++ todo)
    (h : Awaits (earlier ++ done.flatMap FileRequest.answer) limit
      (todo.flatMap FileRequest.bytes) session)
  /-- The session sends the file for the next one of them. -/
  | sends (done todo : List (FileRequest router files count limit))
    (current : FileRequest router files count limit)
    (hrequests : requests = done ++ current :: todo) (body : Bytes) (hbody : body <+: current.body)
    (h : Downloads (earlier ++ done.flatMap FileRequest.answer) current.answerHead current.number
      body session)
    (hrequest : session.request = [])
    (hholds : Holds limit (todo.flatMap FileRequest.bytes) session)
  /-- The connection has failed. -/
  | isOver (hphase : session.phase = .closed) (written : Bytes)
    (hwritten : written <+: requests.flatMap FileRequest.answer)
    (hsent : session.transport.sent = earlier ++ written)

namespace Serves

variable {earlier : Bytes} {requests done todo : List (FileRequest router files count limit)}
  {session : Session}

/-- The answers to some of the requests come before all others. -/
theorem answers_prefix_answers (hrequests : requests = done ++ todo) :
    done.flatMap FileRequest.answer <+: requests.flatMap FileRequest.answer := by
  rw [hrequests, List.flatMap_append]
  exact List.prefix_append _ _

/-- A beginning of an answer, after all answers before it, is a beginning of all answers. -/
theorem append_prefix_answers {current : FileRequest router files count limit}
    (hrequests : requests = done ++ current :: todo) {body written : Bytes}
    (hbody : body <+: current.body) (hwritten : written <+: current.answerHead ++ body) :
    done.flatMap FileRequest.answer ++ written <+: requests.flatMap FileRequest.answer := by
  rw [hrequests, List.flatMap_append, List.flatMap_cons, List.prefix_append_right_inj]
  refine (hwritten.trans ?_).trans (List.prefix_append _ _)
  exact (List.prefix_append_right_inj _).mpr hbody

/-- What comes behind a beginning makes it a longer one. -/
theorem append_prefix_of_drop {content body more : Bytes} (hbody : body <+: content)
    (hmore : more <+: content.drop body.length) : body ++ more <+: content := by
  obtain ⟨rest, rfl⟩ := hbody
  rw [List.drop_left] at hmore
  exact (List.prefix_append_right_inj _).mpr hmore

/-- A beginning of the answers was sent. -/
theorem exists_written (h : Serves earlier requests session) :
    ∃ written, written <+: requests.flatMap FileRequest.answer ∧
      session.transport.sent = earlier ++ written := by
  cases h with
  | waits done todo hrequests h => exact ⟨_, answers_prefix_answers hrequests, h.sent_eq⟩
  | sends done todo current hrequests body hbody h hrequest hholds =>
    obtain ⟨written, hwritten, hsent⟩ := h.exists_written
    exact ⟨_, append_prefix_answers hrequests hbody hwritten, by rw [hsent, List.append_assoc]⟩
  | isOver hphase written hwritten hsent => exact ⟨written, hwritten, hsent⟩

/-- Nothing is left to be answered when a session waits and has read everything. -/
theorem sent_eq_of_unread (h : Serves earlier requests session)
    (hphase : session.phase = .awaitingHeaders) (hunread : session.transport.unread = []) :
    session.transport.sent = earlier ++ requests.flatMap FileRequest.answer := by
  cases h with
  | sends done todo current hrequests body hbody h hrequest hholds =>
    rw [h.phase_eq] at hphase
    cases hphase
  | isOver hclosed written hwritten hsent =>
    rw [hclosed] at hphase
    cases hphase
  | waits done todo hrequests h =>
    have hdata := h.data_eq
    rw [hunread, List.append_nil] at hdata
    cases todo with
    | nil => rw [h.sent_eq, hrequests, List.append_nil]
    | cons current todo =>
      -- The session has gathered a whole request, so it would not wait.
      have hnone := h.headEnd?_eq
      rw [hdata, List.flatMap_cons, current.headEnd?_append] at hnone
      cases hnone

/-- Bytes that do not go past a blank line are gathered, or complete a request, and the session
begins with its answer. -/
theorem gather (hrequests : requests = done ++ todo) (hphase : session.phase = .awaitingHeaders)
    (hsent : session.transport.sent = earlier ++ done.flatMap FileRequest.answer)
    (hlimit : session.headerLimit = limit) (hdelivers : session.transport.Delivers)
    {bytes : Bytes} (hne : session.request ++ bytes ≠ [])
    (hdata : session.request ++ bytes ++ session.transport.unread =
      todo.flatMap FileRequest.bytes)
    (hpast : ∀ e, Http.headEnd? (session.request ++ bytes) = some e →
      (session.request ++ bytes).length ≤ e + Http.blankLine.length)
    {sources : Registry} (hsize : sources.size = count) :
    Serves earlier requests (session.gather router files sources bytes) := by
  cases hend : Http.headEnd? (session.request ++ bytes) with
  | none =>
    -- The request is not complete, so there is room for the rest of it.
    have hroom : (session.request ++ bytes).length < session.headerLimit :=
      hlimit ▸ FileRequest.length_lt_of_append hne hdata hend
    rw [gather_of_none hend hroom]
    exact .waits done todo hrequests ⟨⟨hlimit, hdelivers, hdata⟩, hphase, hsent, hend, hroom⟩
  | some e =>
    -- The request is complete, and nothing was read behind it.
    obtain ⟨current, later, rfl, hbytes, rfl, hunread⟩ :=
      FileRequest.eq_bytes_of_append hne hdata hend (hpast e hend)
    have hhead : current.bytes.take current.head.length = current.head := List.take_left
    rw [gather_of_some hend, hbytes, hhead, hsize, current.route_eq]
    have hbegins := Downloads.respond { session with request := [] } current.openFile_eq sources
      current.length current.mediaType
    have hkeeps := keepsInput_respond { session with request := [] } files sources
      (.staticFile current.path current.length current.mediaType)
    have hholds : Holds limit (later.flatMap FileRequest.bytes) { session with request := [] } :=
      ⟨hlimit, hdelivers, hunread⟩
    have hrequest := hkeeps.request_eq_nil rfl
    exact .sends done later current hrequests [] List.nil_prefix (hsent ▸ hbegins) hrequest
      (hholds.keep hkeeps hrequest)

/-- An attempt to read gathers more of a request, or completes it and begins with its answer. -/
theorem receive (h : Serves earlier requests session) (hpast : session.readsPast = false)
    (now : Nat) {sources : Registry} (hsize : sources.size = count) :
    Serves earlier requests (session.receive now router files sources).2 := by
  cases h with
  | sends done todo current hrequests body hbody h hrequest hholds =>
    rw [receive_eq_self (by rw [h.phase_eq]; exact Phase.noConfusion)]
    exact .sends done todo current hrequests body hbody h hrequest hholds
  | isOver hphase written hwritten hsent =>
    rw [receive_eq_self (by rw [hphase]; exact Phase.noConfusion)]
    exact .isOver hphase written hwritten hsent
  | waits done todo hrequests h =>
    -- The read finds nothing, or is delayed, or takes some bytes.
    have hphase := h.phase_eq
    rcases Transport.read_cases h.delivers (readSize_pos h.length_lt) with
      ⟨-, hread | hread⟩ | ⟨transport, hdelivers, hsame, -,
        ⟨error, htransient, hread, hunread⟩ | ⟨bytes, hne, -, hread, hunread⟩⟩
    · rw [receive_of_nil hphase now router files sources hread]
      exact .waits done todo hrequests h
    · rw [receive_of_transient hphase now router files sources rfl hread]
      exact .waits done todo hrequests h
    · rw [receive_of_transient hphase now router files sources htransient hread]
      exact .waits done todo hrequests (h.delay hdelivers hsame hunread)
    · rw [receive_of_ok hphase now router files sources hne hread]
      have hafter : (session.afterRead now transport bytes).phase = .awaitingHeaders := hphase
      refine gather hrequests hafter (hsame.trans h.sent_eq) h.headerLimit_eq hdelivers ?_ ?_
        (fun e hend => length_le_of_readsPast hphase hpast hread hend) hsize
      · exact List.append_ne_nil_of_right_ne_nil _ hne
      · rw [← h.data_eq, hunread, ← List.append_assoc]
        rfl

/-- An attempt to send goes on with a file, or ends it and leaves the session waiting for the next
request. -/
theorem send (h : Serves earlier requests session) (now : Nat) (sources : Registry) :
    Serves earlier requests (session.send now files sources).2 ∧
      ((session.send now files sources).2.phase = .closed → session.phase = .closed ∨
        (session.send now files sources).1 = .close .transportFailed) := by
  cases h with
  | waits done todo hrequests h =>
    rcases h.send now files sources with hawaits | ⟨hflow, hphase, hsent⟩
    · refine ⟨.waits done todo hrequests hawaits, fun hclosed => ?_⟩
      rw [hawaits.phase_eq] at hclosed
      cases hclosed
    · exact ⟨.isOver hphase _ (answers_prefix_answers hrequests) hsent, fun _ => Or.inr hflow⟩
  | isOver hphase written hwritten hsent =>
    obtain ⟨hclosed, hsame⟩ := session.send_of_closed now files sources hphase
    exact ⟨.isOver hclosed written hwritten (hsame.trans hsent), fun _ => Or.inl hphase⟩
  | sends done todo current hrequests body hbody h hrequest hholds =>
    -- Whatever is sent, what is still to be looked at stays the same.
    have hkeeps := session.keepsInput_send now files sources
    have hnext := hkeeps.request_eq_nil hrequest
    have hinput := hholds.keep hkeeps (hnext.trans hrequest.symm)
    have hsend := h.send now files sources
    generalize session.send now files sources = next at hkeeps hnext hinput hsend ⊢
    obtain ⟨flow, next⟩ := next
    cases hsend with
    | goesOn more hmore h =>
      have hlonger : body ++ more <+: current.body := append_prefix_of_drop hbody hmore
      refine ⟨.sends done todo current hrequests _ hlonger h hnext hinput, fun hclosed => ?_⟩
      have hphase := h.phase_eq
      rw [hclosed] at hphase
      cases hphase
    | ends hend hphase hrequest hsent =>
      -- All of the file was sent.
      have hwhole : body = current.body := hbody.eq_of_length_le hend
      have hall : next.transport.sent =
          earlier ++ (done ++ [current]).flatMap FileRequest.answer := by
        rw [hsent, hwhole, List.flatMap_append, List.flatMap_singleton, List.append_assoc]
        rfl
      refine ⟨.waits (done ++ [current]) todo ?_ (hall ▸ hinput.awaits hphase hnext),
        fun hclosed => ?_⟩
      · rw [hrequests, List.append_assoc, List.singleton_append]
      · rw [hphase] at hclosed
        cases hclosed
    | fails hphase written hwritten hsent =>
      refine ⟨.isOver hphase _ (append_prefix_answers hrequests hbody hwritten) ?_,
        fun _ => Or.inr rfl⟩
      rw [hsent, List.append_assoc]

end Serves

end Serves

end Session

namespace Exchange

/-- The same router and the same files serve the client at every event, and the network behaves as
it was settled at the start. -/
def Event.Serves (router : Router) (files : FileSystem) : Event → Prop
  | receive _ other found => other = router ∧ found = files
  | send _ found => found = files
  | push _ => True
  | network _ => False

/-- No attempt to read goes past the blank line of a request. -/
def ReadsApart (exchange : Exchange) (events : List Event) : Prop :=
  exchange.Throughout
    (fun exchange event => event.isReceive = true → exchange.session.readsPast = false) events

instance (exchange : Exchange) (events : List Event) : Decidable (exchange.ReadsApart events) :=
  decidableThroughout exchange events

section Run

variable {router : Router} {files : FileSystem} {limit : Nat} {earlier : Bytes} {start : Exchange}
  {requests : List (FileRequest router files start.sources.size limit)}

/-- The number of sources stays what it is. -/
theorem size_sources_run (events : List Event) :
    (start.run events).sources.size = start.sources.size := by
  rw [sources_run, Registry.size_pushedAll]

/-- Every event keeps the invariant, and only a failure of the connection ends the session. -/
theorem serves_step {exchange : Exchange} (hsize : exchange.sources.size = start.sources.size)
    (h : Session.Serves earlier requests exchange.session) {event : Event}
    (hserves : event.Serves router files)
    (hpast : event.isReceive = true → exchange.session.readsPast = false) :
    Session.Serves earlier requests (exchange.step event).session ∧
      ((exchange.step event).session.phase = .closed → exchange.session.phase = .closed ∨
        exchange.flow event = .close .transportFailed) := by
  cases event with
  | network future => cases hserves
  | push offered => exact ⟨h, Or.inl⟩
  | receive now other found =>
    obtain ⟨rfl, rfl⟩ := hserves
    refine ⟨h.receive (hpast rfl) now hsize, fun hclosed => ?_⟩
    by_cases hphase : exchange.session.phase = .closed
    · exact Or.inl hphase
    · exact Or.inr (Session.flow_of_receive_closed hphase hclosed)
  | send now found =>
    obtain rfl : found = files := hserves
    exact h.send now exchange.sources

/-- The invariant holds along every run, and a session that is over has met a failure. -/
theorem serves_run (h : Session.Serves earlier requests start.session)
    (hopen : start.session.phase ≠ .closed) {events : List Event}
    (hserves : ∀ event ∈ events, event.Serves router files) (hapart : start.ReadsApart events) :
    Session.Serves earlier requests (start.run events).session ∧
      ((start.run events).session.phase = .closed → ∃ done event rest,
        events = done ++ event :: rest ∧
        (start.run done).flow event = .close .transportFailed) := by
  induction events using List.reverseRecOn with
  | nil => exact ⟨h, fun hclosed => absurd hclosed hopen⟩
  | append_singleton events event ih =>
    rw [List.forall_mem_append, List.forall_mem_singleton] at hserves
    obtain ⟨hbefore, hpast⟩ := throughout_concat_iff.mp hapart
    obtain ⟨hrun, hclosed⟩ := ih hserves.1 hbefore
    obtain ⟨hstep, hfails⟩ := serves_step (size_sources_run events) hrun hserves.2 hpast
    rw [run_concat]
    -- A session that is over met the failure earlier or with the last event.
    refine ⟨hstep, fun hover => ?_⟩
    rcases hfails hover with hover | hflow
    · obtain ⟨done, failure, rest, rfl, hflow⟩ := hclosed hover
      exact ⟨done, failure, rest ++ [event], by simp, hflow⟩
    · exact ⟨events, event, [], rfl, hflow⟩

end Run

/-- Requests for files that arrive on one connection, in pieces of any size, are answered in their
order if no attempt to read goes past the blank line of one of them. At any time a beginning of all
answers was sent, and all of it once everything was read and the session waits again. The session
ends only if its connection fails. -/
theorem answers_of_readsApart (router : Router) (files : FileSystem) (id : Nat)
    (peer : SocketAddress) {transport : Transport} (hdelivers : transport.Delivers)
    (headerLimit chunkSize now : Nat) (sources : Registry)
    (requests : List (FileRequest router files sources.size (max headerLimit 4)))
    (hunread : transport.unread = requests.flatMap FileRequest.bytes) (events : List Event)
    (hserves : ∀ event ∈ events, event.Serves router files)
    (hapart : ReadsApart ⟨.new id peer transport headerLimit chunkSize now, sources⟩ events) :
    let start : Exchange := ⟨.new id peer transport headerLimit chunkSize now, sources⟩
    let final := (start.run events).session
    let answers := requests.flatMap FileRequest.answer
    (∃ written, written <+: answers ∧ final.transport.sent = transport.sent ++ written) ∧
    (final.phase = .awaitingHeaders → final.transport.unread = [] →
      final.transport.sent = transport.sent ++ answers) ∧
    (final.phase = .closed → ∃ done event rest, events = done ++ event :: rest ∧
      (start.run done).flow event = .close .transportFailed) := by
  intro start final answers
  have hholds : Session.Holds (max headerLimit 4) (requests.flatMap FileRequest.bytes)
      start.session := ⟨rfl, hdelivers, hunread⟩
  have hstart : Session.Serves transport.sent requests start.session :=
    .waits [] requests rfl ((List.append_nil _).symm ▸ hholds.awaits rfl rfl)
  obtain ⟨hfinal, hclosed⟩ := serves_run hstart Phase.noConfusion hserves hapart
  exact ⟨hfinal.exists_written, hfinal.sent_eq_of_unread, hclosed⟩

section TwoFiles

/-- A root with two files. -/
def twoFiles : FileSystem where
  entries := [([[119]], .directory), ([[119], [97]], .file 0), ([[119], [98]], .file 1)]
  contents := [#[49], #[50, 50]]

/-- A server that serves them. -/
def twoFilesRouter : Router where
  staticRoot := some (.ofString "/w")

/-- The request for the first file. -/
def firstRequest : FileRequest twoFilesRouter twoFiles 0 4096 where
  head := .ofString "GET /a HTTP/1.1"
  path := .ofString "/w/a"
  length := 1
  mediaType := "application/octet"
  number := 0
  headEnd?_eq := by decide +kernel
  length_le := by decide +kernel
  route_eq := by decide +kernel
  openFile_eq := by decide +kernel

/-- The request for the second file. -/
def secondRequest : FileRequest twoFilesRouter twoFiles 0 4096 where
  head := .ofString "GET /b HTTP/1.1"
  path := .ofString "/w/b"
  length := 2
  mediaType := "application/octet"
  number := 1
  headEnd?_eq := by decide +kernel
  length_le := by decide +kernel
  route_eq := by decide +kernel
  openFile_eq := by decide +kernel

/-- The first request arrives in two pieces, the second one later, and the client is slow. -/
def apart : Transport where
  arrivals := [
    .data (firstRequest.bytes.take 17), .data (firstRequest.bytes.drop 17), .failure .wouldBlock,
    .data secondRequest.bytes]
  outcomes := [.upTo 50, .failure .interrupted]

/-- What happens while both requests are answered. -/
def twoFilesEvents : List Event :=
  List.replicate 2 (.receive 1 twoFilesRouter twoFiles) ++ List.replicate 4 (.send 2 twoFiles) ++
    .push ⟨0, [255, 216]⟩ :: List.replicate 2 (.receive 3 twoFilesRouter twoFiles) ++
    List.replicate 2 (.send 4 twoFiles)

/-- Both requests are answered when they are read apart. -/
theorem answers_of_readsApart_twoFiles :
    let start : Exchange :=
      ⟨.new 1 (.v4 .loopback 5000) apart 4096 16384 0, .ofSizes [] 640 480⟩
    let final := (start.run twoFilesEvents).session
    let answers := [firstRequest, secondRequest].flatMap FileRequest.answer
    apart.Delivers ∧ apart.unread = [firstRequest, secondRequest].flatMap FileRequest.bytes ∧
    (∀ event ∈ twoFilesEvents, event.Serves twoFilesRouter twoFiles) ∧
    start.ReadsApart twoFilesEvents ∧
    (final.phase = .awaitingHeaders ∧ final.transport.unread = []) ∧
    (∃ written, written <+: answers ∧ final.transport.sent = apart.sent ++ written) ∧
    (final.phase = .awaitingHeaders → final.transport.unread = [] →
      final.transport.sent = apart.sent ++ answers) ∧
    (final.phase = .closed → ∃ done event rest, twoFilesEvents = done ++ event :: rest ∧
      (start.run done).flow event = .close .transportFailed) := by
  have hdelivers : apart.Delivers := by decide +kernel
  have hunread : apart.unread = [firstRequest, secondRequest].flatMap FileRequest.bytes := by
    decide +kernel
  have hserves : ∀ event ∈ twoFilesEvents, event.Serves twoFilesRouter twoFiles := by
    simp [twoFilesEvents, Event.Serves]
  have hapart : ReadsApart
      ⟨.new 1 (.v4 .loopback 5000) apart 4096 16384 0, .ofSizes [] 640 480⟩ twoFilesEvents := by
    decide +kernel
  exact ⟨hdelivers, hunread, hserves, hapart, by decide +kernel,
    answers_of_readsApart twoFilesRouter twoFiles 1 (.v4 .loopback 5000) hdelivers 4096 16384 0
      (.ofSizes [] 640 480) [firstRequest, secondRequest] hunread twoFilesEvents hserves hapart⟩

/-- Two requests that are read at once get the answer to the first one alone, and the session waits
for another request. -/
theorem answers_lost_together :
    let together : Transport := { arrivals := [.data (firstRequest.bytes ++ secondRequest.bytes)] }
    let final (transport : Transport) :=
      (Exchange.run ⟨.new 1 (.v4 .loopback 5000) transport 4096 16384 0, .ofSizes [] 640 480⟩
        twoFilesEvents).session
    together.Delivers ∧ together.unread = apart.unread ∧
      (final together).phase = .awaitingHeaders ∧ (final together).transport.unread = [] ∧
      (final together).request = [] ∧ (final together).transport.sent = firstRequest.answer ∧
      (final apart).phase = .awaitingHeaders ∧ (final apart).transport.unread = [] ∧
      (final apart).transport.sent = firstRequest.answer ++ secondRequest.answer := by
  decide +kernel

end TwoFiles

end Exchange

end MotionJpeg
