import MotionJpeg.Proofs.Answer.Exactness
import MotionJpeg.Proofs.Stream.Backlog

/-!
# Answers are sent to their end

Over a connection that takes something, and while nothing else is stored, an answer comes to its
end after no more attempts than it has bytes, and a few more: one to find out that a file is at its
end, and one for a stream to go from a frame to the newest one.

* `Exchange.StopsWithin`: attempts that are repeated come to a stop. `Session.drain` makes such
  attempts.
* `Session.Drained` lists the ends of an answer, `Session.bodySize` is what there is to send for it.
* `Session.stopsWithin_of_send`: an answer comes to its end if every attempt advances it, as
  `Session.Owes.send` and `Session.Pursues.send` show.
* `Session.drains`: every answer is drained, whatever the route.
-/

namespace MotionJpeg

/-- A file that the session has open has the contents in `later` that it had in `files`. -/
def Session.FileStays (session : Session) (files later : FileSystem) : Prop :=
  ∀ number offset, session.file = some (.file number offset) →
    later.content number = files.content number

namespace Exchange

/-- After this event nobody attempts to send again: the session has ended, or it does not want to
write. -/
def Stops (exchange : Exchange) (event : Event) : Prop :=
  exchange.flow event ≠ .keep ∨
    (exchange.step event).session.wantsWrite (exchange.step event).sources = false

/-- One of the first events, less than `calls` after the first of all, is the first to stop the
attempts, and it does so in one of these ways. -/
def StopsWithin (exchange : Exchange) (calls : Nat) (Ends : Flow → Session → Prop)
    (events : List Event) : Prop :=
  ∃ done event rest, events = done ++ event :: rest ∧ done.length < calls ∧
    exchange.Throughout (fun before event => ¬ before.Stops event) done ∧
    (exchange.run done).Stops event ∧
    Ends ((exchange.run done).flow event) ((exchange.run done).step event).session

variable {exchange : Exchange} {Ends : Flow → Session → Prop} {events : List Event}

/-- To stop early is to stop in time. -/
theorem StopsWithin.mono {calls more : Nat} (h : exchange.StopsWithin calls Ends events)
    (hle : calls ≤ more) : exchange.StopsWithin more Ends events := by
  obtain ⟨done, event, rest, hevents, hlength, hends⟩ := h
  exact ⟨done, event, rest, hevents, Nat.lt_of_lt_of_le hlength hle, hends⟩

/-- The event is an attempt to send, and a file that the session has open is as it was in
`files`. -/
def Event.Attempts (session : Session) (files : FileSystem) : Event → Prop
  | send _ later => session.FileStays files later
  | push _ | network _ | receive .. => False

end Exchange

/-- A stream is not given once. -/
theorem OneShot.kind_ne_stream (answer : OneShot) : answer.kind ≠ .stream := by
  obtain ⟨kind, head, body, hfor⟩ := answer
  rintro rfl
  cases body <;> cases hfor

/-- A file that was opened is a directory, or it is at its start. -/
theorem FileSystem.exists_of_openFile {files : FileSystem} {path : Path} {file : OpenFile}
    (hopen : files.openFile path = .ok file) (hregular : file ≠ .directory) :
    ∃ number, file = .file number 0 := by
  rw [openFile] at hopen
  cases hstat : files.stat path with
  | error fault =>
    rw [hstat] at hopen
    cases hopen
  | ok found =>
    obtain ⟨location, entry⟩ := found
    simp only [hstat, bind, Except.bind] at hopen
    split at hopen
    · split at hopen
      · exact ⟨_, (Except.ok.inj hopen).symm⟩
      · exact ⟨_, (Except.ok.inj hopen).symm⟩
      · cases hopen
      · exact absurd (Except.ok.inj hopen).symm hregular
      · exact absurd (Except.ok.inj hopen).symm hregular
    · cases hopen

namespace Session

section Ends

variable (session : Session) (files : FileSystem) (sources : Registry)

/-- What follows the head of an answer that was just begun, unless it is missing: nothing, the image
of a frame or the contents of a file. -/
def body? : RouteKind → Option Bytes
  | .badRequest | .authRequired | .notFound | .streamInfo => some []
  | .still =>
    session.cursor.bind fun cursor => (sources.get? cursor.source).bind fun store =>
      (store.get? cursor.sequence).map Frame.payload
  | .staticFile =>
    match session.file with
    | some (.file number _) => some (files.content number).toList
    | _ => none
  | .stream => none

/-- How many bytes the frame of a stream and the newest one have. -/
def framesSize : Nat :=
  (session.cursor.bind fun cursor => (sources.get? cursor.source).map fun store =>
    store.sentSize cursor.sequence + (store.newest?.map store.sentSize).getD 0).getD 0

/-- How many bytes there are to send after the head of an answer that was just begun. -/
def bodySize : RouteKind → Nat
  | .stream => session.framesSize sources
  | kind => ((session.body? files sources kind).map List.length).getD 0

/-- The ends of an answer that the session has begun. -/
inductive Drained : RouteKind → Flow → Session → Prop where
  /-- All of the answer was sent, and the session is over. -/
  | completes {kind : RouteKind} {body : Bytes} {next : Session} (hkind : kind ≠ .staticFile)
      (hbody : session.body? files sources kind = some body) (hphase : next.phase = .closed)
      (hsent : next.transport.sent =
        session.transport.sent ++ (session.response.toBytes ++ body)) :
      Drained kind (.close .responseComplete) next
  /-- All of a file was sent, and the session waits for another request. -/
  | awaits {body : Bytes} {next : Session}
      (hbody : session.body? files sources .staticFile = some body)
      (hphase : next.phase = .awaitingHeaders)
      (hsent : next.transport.sent =
        session.transport.sent ++ (session.response.toBytes ++ body)) :
      Drained .staticFile .keep next
  /-- The head was sent, and the frame of a still is missing. -/
  | unavailable {next : Session} (hbody : session.body? files sources .still = none)
      (hphase : next.phase = .closed)
      (hsent : session.transport.sent ++ session.response.toBytes <+: next.transport.sent) :
      Drained .still (.close .frameUnavailable) next
  /-- A stream is at the end of the newest frame, which was sent last, or waits for the first
  one. -/
  | rests {cursor place : Cursor} {store : Store} {next : Session}
      (hphase : next.phase = .streaming) (hquiet : next.wantsWrite sources = false)
      (hcursor : session.cursor = some cursor)
      (hstore : sources.get? cursor.source = some store) (hplace : next.cursor = some place)
      (hnewest : ∀ newest, store.newest? = some newest → ∃ frame,
        store.get? newest = some frame ∧ place = ⟨cursor.source, newest, frame.size⟩ ∧
          frame.part.toBytes <:+ next.transport.sent) :
      Drained .stream .keep next

/-- An attempt brings an answer that the session has begun to its end, or leaves less to do. How
much a session has to do is what `Owes` tells. -/
def Advances (Owes : Session → Nat → Prop) (left : Nat) (kind : RouteKind)
    (result : Flow × Session) : Prop :=
  (result.1 = .keep ∧ result.2.wantsWrite sources = true ∧ ∃ less < left, Owes result.2 less) ∨
    session.Drained files sources kind result.1 result.2

variable {session files sources}

/-- At its end a session is over, or it does not want to write. -/
theorem Drained.stops {kind : RouteKind} {flow : Flow} {next : Session}
    (h : session.Drained files sources kind flow next) :
    flow ≠ .keep ∨ next.wantsWrite sources = false := by
  cases h with
  | completes | unavailable => exact Or.inl Flow.noConfusion
  | awaits hbody hphase =>
    rw [wantsWrite, hphase]
    exact Or.inr rfl
  | rests hphase hquiet => exact Or.inr hquiet

/-- Attempts that are repeated bring an answer to its end if each of them advances it. -/
theorem stopsWithin_of_send {kind : RouteKind} {Owes : Session → Nat → Prop}
    (hsend : ∀ current left now later, Owes current left → session.FileStays files later →
      session.Advances files sources Owes left kind (current.send now later sources))
    {current : Session} {left : Nat} (h : Owes current left) {events : List Exchange.Event}
    (hattempts : ∀ event ∈ events, event.Attempts session files) (hlong : left < events.length) :
    (Exchange.mk current sources).StopsWithin (left + 1) (session.Drained files sources kind)
      events := by
  -- Induction from the front, as what is left gets less from every attempt to the next one.
  induction events generalizing current left with
  | nil => exact absurd hlong (Nat.not_lt_zero left)
  | cons event events ih =>
    rw [List.forall_mem_cons] at hattempts
    cases event with
    | push offered | network future | receive now router later => exact hattempts.1.elim
    | send now later =>
      rcases hsend current left now later h hattempts.1 with
        ⟨hflow, hwants, less, hless, hnext⟩ | hends
      · rw [List.length_cons] at hlong
        obtain ⟨done, last, rest, hevents, hlength, hquiet, hstops⟩ :=
          ih hnext hattempts.2 (by omega)
        refine ⟨.send now later :: done, last, rest, by rw [hevents, List.cons_append], ?_, ?_,
          hstops⟩
        · rw [List.length_cons]
          omega
        · refine Exchange.throughout_cons_iff.mpr ⟨?_, hquiet⟩
          exact not_or.mpr ⟨not_not.mpr hflow, (Bool.not_eq_false _).mpr hwants⟩
      · exact ⟨[], _, events, rfl, Nat.succ_pos left, Exchange.throughout_nil, hends.stops, hends⟩

end Ends

/-- To drain a session is to repeat attempts until one of them stops them. -/
theorem drain_of_stopsWithin {session : Session} {sources : Registry} {now : Nat}
    {files : FileSystem} {calls limit : Nat} {Ends : Flow → Session → Prop}
    (h : (Exchange.mk session sources).StopsWithin calls Ends
      (.replicate limit (.send now files))) :
    ∃ flow made next, session.drain now files sources limit = ((flow, made), next) ∧
      made ≤ calls ∧ Ends flow next := by
  obtain ⟨done, event, rest, hevents, hlength, hquiet, hstops, hends⟩ := h
  suffices hgo : ∀ made, drain.go now files sources made limit session =
      ((((Exchange.mk session sources).run done).flow event, made + done.length + 1),
        (((Exchange.mk session sources).run done).step event).session) by
    exact ⟨_, _, _, hgo 0, by omega, hends⟩
  clear hends hlength
  -- Induction along the attempts before the one that stops them.
  induction done generalizing session limit with
  | nil =>
    intro made
    cases limit with
    | zero => cases hevents
    | succ limit =>
      obtain ⟨rfl, -⟩ := List.cons.inj (List.replicate_succ.symm.trans hevents)
      change (session.send now files sources).1 ≠ .keep ∨
        (session.send now files sources).2.wantsWrite sources = false at hstops
      change _ = (((session.send now files sources).1, made + 0 + 1),
        (session.send now files sources).2)
      rw [drain.go]
      generalize session.send now files sources = result at hstops
      obtain ⟨flow, next⟩ := result
      cases flow with
      | close reason => rfl
      | keep =>
        have hquiet : next.wantsWrite sources = false := hstops.resolve_left (absurd rfl)
        simp only [hquiet, Bool.false_eq_true, if_false, Nat.add_zero]
  | cons first done ih =>
    intro made
    cases limit with
    | zero => cases hevents
    | succ limit =>
      obtain ⟨rfl, hrest⟩ := List.cons.inj (List.replicate_succ.symm.trans hevents)
      obtain ⟨hgoes, hlater⟩ := Exchange.throughout_cons_iff.mp hquiet
      obtain ⟨hflow, hwants⟩ := not_or.mp hgoes
      rw [not_not] at hflow
      rw [Bool.not_eq_false] at hwants
      have hgoesOn : session.send now files sources = (.keep, (session.send now files sources).2) :=
        Prod.ext hflow rfl
      have hmade : made + 1 + done.length = made + (done.length + 1) := by omega
      rw [drain.go, hgoesOn]
      dsimp only
      refine (if_pos hwants).trans ((ih hrest hlater hstops (made + 1)).trans ?_)
      rw [hmade]
      rfl

section OneShot

variable {session begun : Session} {answer : OneShot} {bytes : Bytes} {sources : Registry}
  {files : FileSystem}

/-- What the files and the stores supply is what follows the head. -/
theorem body?_of_isSupplied {missing : Prop} (hat : answer.body.IsAt session 0)
    (hsupplied : answer.body.IsSupplied files sources bytes missing) :
    (session.body? files sources answer.kind = none ↔ missing) ∧
      ∀ body, session.body? files sources answer.kind = some body → body = bytes := by
  have hfor := answer.isFor
  cases hbody : answer.body with
  | none =>
    rw [hbody] at hfor hsupplied
    obtain ⟨rfl, hthere⟩ := hsupplied
    have hnothing : session.body? files sources answer.kind = some [] := by
      cases hkind : answer.kind <;> simp_all [Body.IsFor, RouteKind.isCanned, body?]
    simp [hnothing, hthere]
  | frame source sequence =>
    rw [hbody] at hfor hsupplied hat
    obtain ⟨store, payloads, hstore, hrecords, hsequence, rfl, hmissing⟩ := hsupplied
    have himage : session.body? files sources answer.kind =
        (store.get? sequence).map Frame.payload := by
      rw [show answer.kind = .still from hfor, body?,
        show session.cursor = some ⟨source, sequence, 0⟩ from hat, Option.bind_some, hstore,
        Option.bind_some]
    rw [himage, hmissing, Option.map_eq_none_iff]
    -- Before the first payload nothing is found; after it the sequence is one of the history.
    by_cases hnil : payloads = []
    · subst hnil
      simp [hrecords.get?_of_nil]
    · have hpayload := List.getElem?_eq_getElem (hsequence hnil)
      rw [hrecords.get?_eq hpayload, hpayload]
      split
      next hwindow =>
        refine ⟨⟨fun hnone => absurd hnone (Option.some_ne_none _), fun hgone => ?_⟩,
          fun body heq => (Option.some.inj heq).symm⟩
        have hlt := hsequence hnil
        omega
      next hwindow =>
        refine ⟨⟨fun _ => Or.inr (Nat.not_le.mp hwindow), fun _ => rfl⟩, fun body hsome => ?_⟩
        cases hsome
  | file number =>
    rw [hbody] at hfor hsupplied hat
    obtain ⟨rfl, hthere⟩ := hsupplied
    have hcontents : session.body? files sources answer.kind =
        some (files.content number).toList := by
      rw [show answer.kind = .staticFile from hfor, body?,
        show session.file = some (.file number 0) from hat]
    simp [hcontents, hthere]

/-- Streams of a source that there is apart, every answer that a session begins is one that is given
once. -/
theorem respond_cases (session : Session) (route : Route)
    (hregular : (session.respond files sources route).file ≠ some .directory) :
    (∃ source store, route = .stream source ∧ sources.get? source = some store) ∨
    ∃ settled answer, settled.oneShot? files sources = some answer ∧
      session.respond files sources route = session.respond files sources settled := by
  cases route with
  | badRequest => exact Or.inr ⟨.badRequest, _, rfl, rfl⟩
  | authRequired => exact Or.inr ⟨.authRequired, _, rfl, rfl⟩
  | notFound => exact Or.inr ⟨.notFound, _, rfl, rfl⟩
  | streamInfo => exact Or.inr ⟨.streamInfo, _, rfl, rfl⟩
  | stream source =>
    cases hstore : sources.get? source with
    | none => exact Or.inr ⟨.notFound, _, rfl, by simp only [respond, hstore]⟩
    | some store => exact Or.inl ⟨source, store, rfl, hstore⟩
  | still source =>
    cases hstore : sources.get? source with
    | none => exact Or.inr ⟨.notFound, _, rfl, by simp only [respond, hstore]⟩
    | some store => exact Or.inr ⟨.still source, _, by rw [Route.oneShot?, hstore]; rfl, rfl⟩
  | staticFile path length mediaType =>
    cases hopen : files.openFile path with
    | error fault => exact Or.inr ⟨.notFound, _, rfl, by simp only [respond, hopen]⟩
    | ok file =>
      have hfile : (session.respond files sources (.staticFile path length mediaType)).file =
          some file := by rw [respond, hopen]
      rw [hfile, ne_eq, Option.some.injEq] at hregular
      obtain ⟨number, rfl⟩ := FileSystem.exists_of_openFile hopen hregular
      exact Or.inr ⟨.staticFile path length mediaType, _, by rw [Route.oneShot?, hopen]; rfl, rfl⟩

/-- Streams apart, what there is to send after the head is a body. -/
theorem bodySize_of_ne {kind : RouteKind} (hkind : kind ≠ .stream) :
    session.bodySize files sources kind =
      ((session.body? files sources kind).map List.length).getD 0 := by
  cases kind <;> first | rfl | exact absurd rfl hkind

/-- Of the answer that `begun` has begun, and that a session goes on with over a connection that
takes something, `left` bytes are left. -/
structure Owes (begun : Session) (answer : OneShot) (bytes : Bytes) (files : FileSystem)
    (sources : Registry) (history : Nat → List Bytes) (session : Session) (left : Nat) : Prop where
  answers : ∃ bodySent, Answers begun answer bytes bodySent session
  cooperates : session.transport.Cooperates
  placed : session.Placed sources history
  sound : session.Sound sources
  length_eq : session.transport.sent.length + left =
    begun.transport.sent.length + (answer.head.length + begun.bodySize files sources answer.kind)

variable {history : Nat → List Bytes} (hmemory : sources.Remembers history)
  (hresponse : begun.response.toBytes = answer.head) (hkind : answer.kind ≠ .stream)
  (hbody : ∀ body, begun.body? files sources answer.kind = some body → body = bytes)

include hmemory hresponse hkind hbody

/-- Every attempt leaves less of an answer, until the answer comes to its end. -/
theorem Owes.send {left : Nat} (h : begun.Owes answer bytes files sources history session left)
    (now : Nat) {later : FileSystem}
    (hsupplied : answer.body.IsSupplied later sources bytes
      (begun.body? files sources answer.kind = none)) :
    begun.Advances files sources (begun.Owes answer bytes files sources history) left answer.kind
      (session.send now later sources) := by
  obtain ⟨bodySent, hanswers⟩ := h.answers
  have houtcome := hanswers.send now later sources hsupplied
  have hmoves := send_progresses_of_draining now later h.placed hmemory h.sound
    h.cooperates.acceptsSome hanswers.phase_eq
  have hkept := keeps_send Transport.keeps_cooperates h.cooperates now later sources
  obtain ⟨_, _, hdelivers⟩ := h.placed.send now later hmemory h.sound
  have hplaced := hdelivers.placed
  have hsound : (session.send now later sources).2.Sound sources :=
    @Exchange.sound_step ⟨session, sources⟩ h.sound (.send now later)
  have hpresent (hthere : ¬ begun.body? files sources answer.kind = none) :
      begun.body? files sources answer.kind = some bytes := by
    obtain ⟨body, hsome⟩ := Option.ne_none_iff_exists'.mp hthere
    rw [hsome, hbody body hsome]
  rw [Progresses] at hmoves
  rw [Advances]
  generalize (session.send now later sources).1 = flow at *
  generalize (session.send now later sources).2 = next at *
  cases houtcome with
  | goesOn bodySent hstands hthere hnext =>
    have hgrew : session.transport.sent.length < next.transport.sent.length := by
      rcases hmoves with hgrew | ⟨hflow, -⟩ | hawaits
      · exact hgrew
      · exact absurd rfl hflow
      · cases hnext.phase_eq.symm.trans hawaits
    -- Without its frame a session goes on with the head alone.
    have hfits : bodySent ≤ begun.bodySize files sources answer.kind := by
      by_cases hmissing : begun.body? files sources answer.kind = none
      · rw [hnext.bodySent_eq_zero (hthere hmissing)]
        exact Nat.zero_le _
      · rw [bodySize_of_ne hkind, hpresent hmissing]
        exact hnext.bodySent_le
    have hsent := congrArg List.length hnext.sent_eq
    rw [List.length_append, List.length_append, List.length_take, List.length_take] at hsent
    have hlength := h.length_eq
    obtain ⟨less, hless⟩ : ∃ less, next.transport.sent.length + less =
        begun.transport.sent.length +
          (answer.head.length + begun.bodySize files sources answer.kind) :=
      Nat.le.dest (by omega)
    exact Or.inl ⟨rfl, wantsWrite_of_draining hnext.phase_eq sources, less, by omega,
      ⟨bodySent, hnext⟩, hkept, hplaced, hsound, hless⟩
  | completes hstands hthere hkind hphase hsent =>
    refine Or.inr (.completes hkind (hpresent hthere) hphase ?_)
    rw [hsent, hresponse]
  | awaits hstands hthere hkind hphase hsent =>
    have hcontents := hpresent hthere
    rw [hkind] at hcontents ⊢
    refine Or.inr (.awaits hcontents hphase ?_)
    rw [hsent, hresponse]
  -- On such a connection no attempt fails.
  | isOver hfails => exact absurd hfails (not_connectionFails h.cooperates now later sources _)
  | unavailable hstands hmissing hkind hphase bodySent hsent =>
    rw [hkind] at hmissing ⊢
    refine Or.inr (.unavailable hmissing hphase ?_)
    rw [hsent, hresponse, ← List.append_assoc]
    exact List.prefix_append _ _

end OneShot

section Stream

/-- A session that sends the stream of a source has `left` to do. -/
def Pursues (source : Nat) (store : Store) (payloads : List Bytes) (session : Session)
    (left : Nat) : Prop :=
  ∃ cursor, cursor.source = source ∧ session.Follows payloads cursor ∧
    session.headLeft + cursor.backlog store = left

/-- Every attempt leaves a stream less to do, until it rests. -/
theorem Pursues.send {begun session : Session} {files : FileSystem} {sources : Registry}
    {store : Store} {payloads : List Bytes} {bound : Cursor} {left : Nat}
    (h : Pursues bound.source store payloads session left) (hcursor : begun.cursor = some bound)
    (hstore : sources.get? bound.source = some store) (hrecords : store.Records payloads)
    (now : Nat) (later : FileSystem) :
    begun.Advances files sources (Pursues bound.source store payloads) left .stream
      (session.send now later sources) := by
  obtain ⟨cursor, hsource, hfollows, rfl⟩ := h
  rw [← hsource] at hstore ⊢
  obtain ⟨next, hnext⟩ := hfollows.send hstore hrecords now later
  rw [← hnext.source_eq] at hstore hsource
  cases hwants : (session.send now later sources).2.wantsWrite sources with
  | true =>
    exact Or.inl ⟨hnext.flow_eq, hwants, _, hnext.less hwants, next, hnext.source_eq,
      hnext.follows, rfl⟩
  | false =>
    obtain ⟨hphase, hnewest⟩ := hnext.follows.rests hstore hrecords hwants
    rw [hsource] at hstore hnewest
    refine Or.inr ?_
    rw [hnext.flow_eq]
    exact .rests hphase hwants hcursor hstore hnext.follows.cursor_eq hnewest

end Stream

section Run

variable (sizes : List (Nat × Nat)) (width height : Nat) (earlier later : List Push)
  {session : Session} (hcooperates : session.transport.Cooperates) (files : FileSystem)

include hcooperates

/-- An answer that is given once comes to its end, at the latest when an attempt finds nothing left
of it. -/
theorem stopsWithin_of_oneShot {route : Route} {answer : OneShot}
    (hanswer : route.oneShot? files ((Registry.ofSizes sizes width height).pushedAll earlier) =
      some answer) {events : List Exchange.Event} :
    let begun := session.respond files
      ((Registry.ofSizes sizes width height).pushedAll earlier) route
    let sources := (Registry.ofSizes sizes width height).pushedAll (earlier ++ later)
    let size := begun.response.length + begun.bodySize files sources answer.kind
    begun.phase = .draining answer.kind ∧
    ((∀ event ∈ events, event.Attempts begun files) → size < events.length →
      (Exchange.mk begun sources).StopsWithin (size + 1)
        (begun.Drained files sources answer.kind) events) := by
  intro begun sources size
  let bytes := answer.body.bytes files sizes (earlier ++ later)
  have hanswers : Answers session answer bytes 0 begun := .begin session hanswer bytes
  have htransport : begun.transport = session.transport := session.transport_respond files _ route
  -- What was sent before is the same for the session before its request, so either may stand for
  -- where the answer begins.
  have hbegun : Answers begun answer bytes 0 begun :=
    { hanswers with sent_eq := by rw [htransport]; exact htransport ▸ hanswers.sent_eq }
  have hresponse : begun.response.toBytes = answer.head := by
    rw [hanswers.response_eq, Slice.toBytes_ofBytes]
  have hlength : begun.response.length = answer.head.length := by
    rw [hanswers.response_eq, Slice.length_ofBytes]
  have hmemory : sources.Remembers (historyOf sizes (earlier ++ later)) :=
    Registry.remembers_historyOf sizes width height (earlier ++ later)
  obtain ⟨hmissing, hbody⟩ := body?_of_isSupplied hbegun.isAt
    (OneShot.isSupplied hanswer (fun _ _ => rfl) later)
  refine ⟨hbegun.phase_eq, fun hattempts hlong => ?_⟩
  have hsend (current : Session) (left now : Nat) (other : FileSystem)
      (howes : begun.Owes answer bytes files sources (historyOf sizes (earlier ++ later)) current
        left) (hstays : begun.FileStays files other) :
      begun.Advances files sources
        (begun.Owes answer bytes files sources (historyOf sizes (earlier ++ later))) left
        answer.kind (current.send now other sources) := by
    have hfile (number : Nat) (hnumber : answer.body = .file number) :
        other.content number = files.content number := by
      have hat := hbegun.isAt
      rw [hnumber] at hat
      exact hstays number 0 hat
    have hsupplied := OneShot.isSupplied hanswer hfile later
    rw [← propext hmissing] at hsupplied
    exact howes.send hmemory hresponse answer.kind_ne_stream hbody now hsupplied
  have hplaced := Placed.respond
    (Registry.remembers_historyOf sizes width height earlier) session files route
  have hsize : sources.size = ((Registry.ofSizes sizes width height).pushedAll earlier).size := by
    rw [Registry.size_pushedAll, Registry.size_pushedAll]
  have hstart : begun.Owes answer bytes files sources (historyOf sizes (earlier ++ later)) begun
      size :=
    { answers := ⟨0, hbegun⟩
      cooperates := htransport ▸ hcooperates
      placed := hplaced.mono hsize (historyOf_prefix_append sizes earlier later)
      sound := (Sound.respond files session _ route).congr hsize
      length_eq := by rw [← hlength] }
  exact stopsWithin_of_send hsend hstart hattempts hlong

/-- A stream comes to where it rests. -/
theorem stopsWithin_of_stream {source : Nat} {bound : Store}
    (hbound : ((Registry.ofSizes sizes width height).pushedAll earlier).get? source = some bound)
    {events : List Exchange.Event} :
    let begun := session.respond files
      ((Registry.ofSizes sizes width height).pushedAll earlier) (.stream source)
    let sources := (Registry.ofSizes sizes width height).pushedAll (earlier ++ later)
    let size := begun.response.length + begun.bodySize files sources .stream
    begun.phase = .draining .stream ∧
    ((∀ event ∈ events, event.Attempts begun files) → size + 1 < events.length →
      (Exchange.mk begun sources).StopsWithin (size + 2)
        (begun.Drained files sources .stream) events) := by
  intro begun sources size
  obtain ⟨capacity, limit, hsize, other, hother, hrecords, -⟩ :=
    Registry.exists_records_of_get? hbound
  obtain rfl : bound = other := Option.some.inj (hbound.symm.trans hother)
  obtain ⟨store, hstore, hhistory, -⟩ :=
    (Registry.records_ofSizes width height hsize).pushedAll (earlier ++ later)
  rw [List.nil_append] at hhistory
  have hbegun : begun = { session.answering .stream Http.Reply.streamHeader with
      cursor := some (.bind source bound) } := by
    show session.respond files _ (.stream source) = _
    rw [respond, hbound]
  refine ⟨by rw [hbegun]; rfl, fun hattempts hlong => ?_⟩
  have hcursor : begun.cursor = some (.bind source bound) := by rw [hbegun]
  have hfollows : begun.Follows (acceptedBy source limit (earlier ++ later))
      (.bind source bound) := by
    rw [hbegun]
    refine ⟨hcooperates, Or.inl ⟨rfl, length_streamHeader_pos, rfl⟩, rfl, ?_, List.nil_suffix⟩
    -- The cursor was bound before the later payloads came, and these only add to the history.
    rw [acceptedBy_append]
    exact (Cursor.IsWithin.of_bind source hrecords).append _
  have hle : begun.headLeft + (Cursor.bind source bound).backlog store ≤ size + 1 := by
    have hframes : begun.bodySize files sources .stream =
        store.sentSize (Cursor.bind source bound).sequence +
          (store.newest?.map store.sentSize).getD 0 := by
      rw [bodySize, framesSize, hcursor, Option.bind_some, Cursor.bind, hstore]
      rfl
    have hhead : begun.headLeft ≤ begun.response.length := Nat.sub_le _ _
    have hbacklog := (Cursor.bind source bound).backlog_le store
    rw [← hframes] at hbacklog
    show begun.headLeft + _ ≤ begun.response.length + _ + 1
    omega
  have hsend (current : Session) (left now : Nat) (other : FileSystem)
      (h : Pursues source store (acceptedBy source limit (earlier ++ later)) current left)
      (_ : begun.FileStays files other) :
      begun.Advances files sources
        (Pursues source store (acceptedBy source limit (earlier ++ later))) left .stream
        (current.send now other sources) :=
    Pursues.send h hcursor hstore hhistory now other
  exact (stopsWithin_of_send hsend ⟨.bind source bound, rfl, hfollows, rfl⟩ hattempts
    (by omega)).mono (by omega)

/-- Every answer is drained. Over a connection whose writes take at least one byte, and whose
flushes do not fail for good, a session that has begun an answer needs no more attempts to send than
its head and what follows it have bytes, and two more. The payloads that are pushed `later` come
before the first of them. -/
theorem drains (route : Route) {events : List Exchange.Event} :
    let begun := session.respond files
      ((Registry.ofSizes sizes width height).pushedAll earlier) route
    let sources := (Registry.ofSizes sizes width height).pushedAll (earlier ++ later)
    begun.file ≠ some .directory → (∀ event ∈ events, event.Attempts begun files) →
    ∃ kind, begun.phase = .draining kind ∧
      let calls := begun.response.length + begun.bodySize files sources kind + 2
      (calls ≤ events.length → (Exchange.mk begun sources).StopsWithin calls
        (begun.Drained files sources kind) events) := by
  intro begun sources hregular hattempts
  rcases respond_cases session route hregular with
    ⟨source, store, rfl, hstore⟩ | ⟨settled, answer, hanswer, hsettled⟩
  · obtain ⟨hphase, hstops⟩ :=
      stopsWithin_of_stream sizes width height earlier later hcooperates files hstore
    exact ⟨.stream, hphase, fun hlong => hstops hattempts hlong⟩
  · obtain ⟨hphase, hstops⟩ :=
      stopsWithin_of_oneShot sizes width height earlier later hcooperates files hanswer
    rw [← hsettled] at hphase hstops
    exact ⟨answer.kind, hphase, fun hlong =>
      (hstops hattempts (Nat.lt_of_succ_lt hlong)).mono (Nat.le_succ _)⟩

end Run

section LateViewer

/-- A viewer whose connection takes a few bytes at a time, and cannot be flushed at first. -/
def lateViewer : Session :=
  .new 1 (.v4 .loopback 5000) { usualOutcome := .upTo 40, flushErrors := [.wouldBlock] } 4096 16384
    0

/-- The late viewer asks for a stream, and before anything is sent another frame is stored. -/
def lateStart : Session :=
  lateViewer.respond {} ((Registry.ofSizes [(2, 4)] 640 480).pushedAll [⟨0, [1]⟩]) (.stream 0)

/-- The late viewer is given the newest frame after all, although its stream was bound to the one
before it. -/
theorem drains_lateViewer :
    lateViewer.transport.Cooperates ∧
    let sources := (Registry.ofSizes [(2, 4)] 640 480).pushedAll ([⟨0, [1]⟩] ++ [⟨0, [2]⟩])
    let events : List Exchange.Event := .replicate 489 (.send 1 {})
    lateStart.file ≠ some .directory ∧ (∀ event ∈ events, event.Attempts lateStart {}) ∧
    lateStart.phase = .draining .stream ∧
    lateStart.response.length + lateStart.bodySize {} sources .stream + 2 = 489 ∧
    (Exchange.mk lateStart sources).StopsWithin 489 (lateStart.Drained {} sources .stream) events ∧
    let final := ((Exchange.mk lateStart sources).run events).session
    final.phase = .streaming ∧ final.wantsWrite sources = false ∧
    final.transport.sent = Http.Reply.streamHeader ++
      (wholePart [[1], [2]] 0 ++ wholePart [[1], [2]] 1) := by
  have hcooperates : lateViewer.transport.Cooperates := ⟨by decide, by decide⟩
  refine ⟨hcooperates, ?_⟩
  intro sources events
  have hregular : lateStart.file ≠ some .directory := by decide +kernel
  have hattempts : ∀ event ∈ events, event.Attempts lateStart {} := by
    intro event hmem
    rw [List.eq_of_mem_replicate hmem]
    exact fun _ _ _ => rfl
  have hphase : lateStart.phase = .draining .stream := by decide +kernel
  have hcalls : lateStart.response.length + lateStart.bodySize {} sources .stream + 2 = 489 := by
    decide +kernel
  refine ⟨hregular, hattempts, hphase, hcalls, ?_, by decide +kernel⟩
  obtain ⟨kind, hkind, hdrains⟩ :=
    drains [(2, 4)] 640 480 [⟨0, [1]⟩] [⟨0, [2]⟩] hcooperates {} (.stream 0) hregular hattempts
  obtain rfl : kind = .stream := Phase.draining.inj (hkind.symm.trans hphase)
  -- Few of these attempts are made, but so many are enough whatever the connection takes at once.
  have hlong : lateStart.response.length + lateStart.bodySize {} sources .stream + 2 ≤
      events.length := by
    rw [List.length_replicate]
    exact Nat.le_of_eq hcalls
  exact hcalls ▸ hdrains hlong

end LateViewer

end Session

end MotionJpeg
