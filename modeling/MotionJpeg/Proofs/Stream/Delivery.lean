import MotionJpeg.Proofs.Session.Exchange
import MotionJpeg.Proofs.Session.Steps
import MotionJpeg.Proofs.Stream.Segment

/-!
# Delivery of a stream

What a client that asked for a stream is sent, whatever the network does and whenever payloads are
accepted: the head, and then a row of segments.

* `Exchange.Leaves` says when a cursor leaves a frame, and for which other one.
* `Exchange.Streams` is the invariant of a run: the head and the row are what was sent.
* `Exchange.Streams.step`: every event keeps the invariant.
-/

namespace MotionJpeg.Exchange

/-- At one of the events the cursor goes from the frame of `old` to `next`. That is the newest
frame then, and the old one was sent to its end unless it had been overwritten. -/
def Leaves (start : Exchange) (source capacity : Nat) (payloads : List Bytes) (events : List Event)
    (old : Segment) (next : Nat) : Prop :=
  old.sequence < next ∧ ∃ done event rest, events = done ++ event :: rest ∧
    (start.run done).newest? source = some next ∧
    (start.run done).session.cursor.map Cursor.sequence = some old.sequence ∧
    (start.run (done ++ [event])).session.cursor.map Cursor.sequence = some next ∧
    (old.IsComplete payloads ∨ old.sequence + capacity ≤ next ∧
      (start.run done).session.cursor.map Cursor.offset = some old.sent.length)

/-- What happened to a cursor has happened when more events follow. -/
theorem Leaves.append {start : Exchange} {source capacity next : Nat} {payloads : List Bytes}
    {events : List Event} {old : Segment}
    (h : Leaves start source capacity payloads events old next)
    (later : List Bytes) (event : Event) :
    Leaves start source capacity (payloads ++ later) (events ++ [event]) old next := by
  obtain ⟨hlt, done, event', rest, rfl, hnewest, hbefore, hafter, hwhy⟩ := h
  refine ⟨hlt, done, event', rest ++ [event], by simp, hnewest, hbefore, hafter, ?_⟩
  exact hwhy.imp_left fun hcomplete => hcomplete.append later

/-- The session delivers a stream: it has sent the head, or its beginning, and then the body that
leads to its cursor. Before `origin` was asked for the stream other things may have been sent. -/
structure Streams (origin : Session) (source capacity limit first : Nat) (payloads : List Bytes)
    (leaves : Segment → Nat → Prop) (cursor : Cursor) (body : Bytes) (frames : Nat)
    (exchange : Exchange) : Prop where
  records : exchange.sources.Records source capacity limit payloads
  phase : exchange.session.phase = .draining .stream ∨
    exchange.session.phase = .streaming ∨ exchange.session.phase = .closed
  response_eq : exchange.session.response = .ofBytes Http.Reply.streamHeader
  responseSent_le : exchange.session.responseSent ≤ Http.Reply.streamHeader.length
  /-- The body begins after the head. -/
  body_eq_nil : exchange.session.responseSent < Http.Reply.streamHeader.length →
    exchange.session.phase ≠ .streaming ∧ body = [] ∧ frames = 0
  cursor_eq : exchange.session.cursor = some cursor
  source_eq : cursor.source = source
  streamed : Streamed payloads leaves first cursor body frames
  sent_eq : exchange.session.transport.sent = origin.transport.sent ++
    Http.Reply.streamHeader.take exchange.session.responseSent ++ body
  framesSent_eq : exchange.session.stats.framesSent = origin.stats.framesSent + frames

namespace Streams

variable {origin : Session} {source capacity limit first : Nat} {payloads : List Bytes}
  {leaves leaves' : Segment → Nat → Prop} {cursor : Cursor} {body : Bytes} {frames : Nat}
  {exchange : Exchange}

/-- A session that was asked for a stream has sent nothing of it. -/
theorem begin (origin : Session) (files : FileSystem) {sources : Registry} {store : Store}
    (hstore : sources.get? source = some store) (hrecords : store.Records payloads) :
    Streams origin source store.capacity store.maxPayload (Cursor.bind source store).sequence
      payloads leaves (.bind source store) [] 0
      (Exchange.begin origin files sources (.stream source)) := by
  have hbegin : origin.respond files sources (.stream source) =
      { origin.answering .stream Http.Reply.streamHeader with
        cursor := some (.bind source store) } := by
    rw [Session.respond]
    simp only [hstore]
  rw [Exchange.begin, hbegin]
  exact {
    records := ⟨store, hstore, hrecords, rfl, rfl⟩
    phase := Or.inl rfl
    response_eq := rfl
    responseSent_le := Nat.zero_le _
    body_eq_nil := fun _ => ⟨by simp [Session.answering], rfl, rfl⟩
    cursor_eq := rfl
    source_eq := rfl
    streamed := .begin source hrecords
    sent_eq := by simp [Session.answering]
    framesSent_eq := rfl }

/-- The invariant is kept when payloads are accepted and when a cursor has more ways to go. -/
theorem mono (h : Streams origin source capacity limit first payloads leaves cursor body frames
      exchange) (hleaves : ∀ old next, leaves old next → leaves' old next) (later : List Bytes)
    {sources : Registry} (hrecords : sources.Records source capacity limit (payloads ++ later)) :
    Streams origin source capacity limit first (payloads ++ later) leaves' cursor body frames
      { exchange with sources } :=
  { h with
    records := hrecords
    streamed := h.streamed.mono later hleaves }

/-- What the network does to the connection does not matter, as long as the peer keeps what it was
given. -/
theorem withTransport (h : Streams origin source capacity limit first payloads leaves cursor body
      frames exchange) {transport : Transport}
    (hsent : transport.sent = exchange.session.transport.sent) :
    Streams origin source capacity limit first payloads leaves cursor body frames
      { exchange with session.transport := transport } :=
  { h with sent_eq := hsent.trans h.sent_eq }

/-- A failure closes the session and changes nothing else. -/
theorem fail (h : Streams origin source capacity limit first payloads leaves cursor body frames
      exchange) :
    Streams origin source capacity limit first payloads leaves cursor body frames
      { exchange with session := exchange.session.fail.2 } :=
  { h with
    phase := Or.inr (Or.inr rfl)
    body_eq_nil := fun hlt => ⟨by simp [Session.fail], (h.body_eq_nil hlt).2⟩ }

/-- One attempt to send frames keeps the invariant. What it needs to know of the run is that the
cursor may leave its frame where it does so. -/
theorem sendFrames (h : Streams origin source capacity limit first payloads leaves cursor body
      frames exchange) (hphase : exchange.session.phase = .streaming) (now : Nat)
    (hleaves : ∀ old next, old.sequence = cursor.sequence → cursor.sequence < next →
      exchange.newest? source = some next →
      (exchange.session.sendFrames now exchange.sources).2.cursor.map Cursor.sequence =
        some next →
      (old.IsComplete payloads ∨ old.sequence + capacity ≤ next ∧
        cursor.offset = old.sent.length) → leaves old next) :
    ∃ cursor' body' frames', Streams origin source capacity limit first payloads leaves cursor'
      body' frames'
      { exchange with session := (exchange.session.sendFrames now exchange.sources).2 } := by
  obtain ⟨store, hget, hrecords, rfl, rfl⟩ := h.records
  have hhead : exchange.session.responseSent = Http.Reply.streamHeader.length := by
    by_contra hne
    have hlt := Nat.lt_of_le_of_ne h.responseSent_le hne
    exact (h.body_eq_nil hlt).1 hphase
  have hsource := h.source_eq
  have hnewest : exchange.newest? source =
      if payloads = [] then none else some (payloads.length - 1) := by
    rw [newest?, hget, ← hrecords.newest?_eq]
    rfl
  rcases exchange.session.sendFrames_cases now exchange.sources h.cursor_eq (hsource ▸ hget) with
    ⟨hnone, hsend⟩ | ⟨bytes, hbytes, ⟨transport, hsent, hsend⟩ |
      ⟨count, transport, hcount, hsent, hsend⟩⟩
  · -- The cursor finds nothing only as long as nothing was stored.
    have hnil : payloads = [] := by
      by_contra hne
      have hlt := h.streamed.isWithin.sequence_lt hne
      obtain ⟨hlt', hwindow⟩ := cursor.caughtUp_inWindow hrecords hlt
      obtain ⟨bytes, hbytes, -⟩ := (cursor.caughtUp store).unsent?_eq hrecords hlt' hwindow
      rw [hnone] at hbytes
      cases hbytes
    subst hnil
    rw [hsend, cursor.caughtUp_of_nil hrecords, ← h.cursor_eq]
    exact ⟨cursor, body, frames, h⟩
  · -- A failed write leaves even the cursor where it was.
    rw [hsend]
    exact ⟨cursor, body, frames, (h.withTransport hsent).fail⟩
  · -- Some bytes are written, perhaps none. The cursor catches up before that and advances after
    -- it, and it leaves its frame at most once in both together.
    have hne : payloads ≠ [] := by
      rintro rfl
      rw [cursor.caughtUp_of_nil hrecords, cursor.unsent?_of_nil hrecords] at hbytes
      cases hbytes
    rw [if_neg hne] at hnewest
    have hlt := h.streamed.isWithin.sequence_lt hne
    have hcaught_eq := cursor.caughtUp_eq hrecords hlt
    obtain ⟨hlt', hwindow⟩ := cursor.caughtUp_inWindow hrecords hlt
    rw [hsend] at hleaves ⊢
    -- If the cursor leaves its frame to catch up, it is at the newest one then and stays there.
    have hcaught : Streamed payloads leaves first (cursor.caughtUp store) body frames := by
      refine h.streamed.caughtUp hrecords hne fun hover => ?_
      rw [if_neg (Nat.not_le.mpr hover)] at hcaught_eq
      refine hleaves _ _ rfl (by omega) hnewest ?_ (Or.inr ⟨?_, ?_⟩)
      · rw [Option.map_some, hcaught_eq, Cursor.sequence_advance_of_newest _ hrecords rfl]
      · simp only [Cursor.segment]
        omega
      · exact h.streamed.isWithin.length_sent.symm
    -- What is offered is the rest of the part at the cursor, so what is taken comes next in it.
    obtain ⟨bytes', hbytes', hunsent⟩ :=
      (cursor.caughtUp store).unsent?_eq hrecords hlt' hwindow
    rw [hbytes, Option.some.injEq] at hbytes'
    subst hbytes'
    have hcount' : (cursor.caughtUp store).offset + count ≤
        (wholePart payloads (cursor.caughtUp store).sequence).length := by
      have hoffset := hcaught.isWithin.offset_le
      rw [← Slice.length_toBytes, hunsent, List.length_drop] at hcount
      omega
    have hnext : Streamed payloads leaves first ((cursor.caughtUp store).advance store count).2
        (body ++ bytes.toBytes.take count)
        (frames + if ((cursor.caughtUp store).advance store count).1 then 1 else 0) := by
      rw [hunsent]
      refine hcaught.advance hrecords hne hwindow hcount' fun hnewer hleft => ?_
      -- A cursor with a newer frame to go to has not just caught up.
      have hstay : cursor.caughtUp store = cursor := by
        rw [hcaught_eq]
        refine if_pos (by_contra fun hover => ?_)
        rw [hcaught_eq, if_neg hover, Cursor.toNewest] at hnewer
        dsimp only at hnewer
        omega
      rw [hstay] at hleft hnewer hleaves ⊢
      refine hleaves _ _ rfl (by omega) hnewest ?_ (Or.inl ?_)
      · rw [Option.map_some, hleft]
      · exact (Segment.isComplete_iff hlt).mpr rfl
    refine ⟨_, _, _, { h with
      phase := h.phase
      body_eq_nil := fun hshort => absurd hhead (Nat.ne_of_lt hshort)
      cursor_eq := rfl
      source_eq := ?_
      streamed := hnext
      sent_eq := ?_
      framesSent_eq := ?_ }⟩
    · rw [Cursor.source_advance, Cursor.source_caughtUp, hsource]
    · exact hsent.trans (by rw [h.sent_eq, List.append_assoc]; rfl)
    · rw [← Nat.add_assoc, ← h.framesSent_eq]

/-- More bytes of the head are sent. -/
theorem afterHead (h : Streams origin source capacity limit first payloads leaves cursor body
      frames exchange) (hshort : exchange.session.responseSent < Http.Reply.streamHeader.length)
    (now : Nat) {transport : Transport} {count : Nat}
    (hcount : exchange.session.responseSent + count ≤ Http.Reply.streamHeader.length)
    (hsent : transport.sent = exchange.session.transport.sent ++
      (Http.Reply.streamHeader.drop exchange.session.responseSent).take count) :
    Streams origin source capacity limit first payloads leaves cursor body frames
      { exchange with session := exchange.session.afterHead now transport count } :=
  { h with
    responseSent_le := hcount
    body_eq_nil := fun _ => h.body_eq_nil hshort
    sent_eq := by
      obtain ⟨-, rfl, -⟩ := h.body_eq_nil hshort
      refine hsent.trans ?_
      rw [h.sent_eq, List.append_nil, List.append_nil, List.append_assoc, ← List.take_add]
      rfl }

/-- A session whose head was sent turns to the frames. -/
theorem toFrames (h : Streams origin source capacity limit first payloads leaves cursor body
      frames exchange) (hhead : Http.Reply.streamHeader.length ≤ exchange.session.responseSent) :
    Streams origin source capacity limit first payloads leaves cursor body frames
      { exchange with session.phase := .streaming } :=
  { h with
    phase := Or.inr (Or.inl rfl)
    body_eq_nil := fun hshort => absurd hhead (Nat.not_le.mpr hshort) }

/-- One attempt to send the head keeps the invariant, also if the frames are turned to. -/
theorem sendAnswer (h : Streams origin source capacity limit first payloads leaves cursor body
      frames exchange) (now : Nat) (files : FileSystem)
    (hleaves : ∀ old next, old.sequence = cursor.sequence → cursor.sequence < next →
      exchange.newest? source = some next →
      (exchange.session.sendAnswer now files exchange.sources .stream).2.cursor.map
        Cursor.sequence = some next →
      (old.IsComplete payloads ∨ old.sequence + capacity ≤ next ∧
        cursor.offset = old.sent.length) → leaves old next) :
    ∃ cursor' body' frames', Streams origin source capacity limit first payloads leaves cursor'
      body' frames' { exchange with
        session := (exchange.session.sendAnswer now files exchange.sources .stream).2 } := by
  have hresponse : exchange.session.response.toBytes = Http.Reply.streamHeader := by
    rw [h.response_eq, Slice.toBytes_ofBytes]
  have hlength : exchange.session.response.length = Http.Reply.streamHeader.length := by
    rw [h.response_eq, Slice.length_ofBytes]
  by_cases hshort : exchange.session.responseSent < exchange.session.response.length
  · rcases exchange.session.sendAnswer_cases now files exchange.sources .stream hshort with
      ⟨-, transport, hsent, hsend⟩ | ⟨-, count, transport, hcount, hsent, -, hsend⟩
    · rw [hsend]
      exact ⟨cursor, body, frames, (h.withTransport hsent).fail⟩
    · -- Once the head is sent the same event goes on with the frames.
      rw [hresponse] at hsent
      rw [hlength] at hshort hcount hsend
      have hafter := h.afterHead hshort now hcount hsent
      rw [hsend] at hleaves ⊢
      by_cases hleft : exchange.session.responseSent + count < Http.Reply.streamHeader.length
      · rw [if_pos hleft]
        exact ⟨cursor, body, frames, hafter⟩
      · rw [if_neg hleft] at hleaves ⊢
        exact (hafter.toFrames (Nat.not_lt.mp hleft)).sendFrames rfl now hleaves
  · -- Nothing of the head is left.
    have hsend : exchange.session.sendAnswer now files exchange.sources .stream =
        { exchange.session with phase := .streaming }.sendFrames now exchange.sources := by
      rw [Session.sendAnswer, if_neg hshort, Session.sendBody]
    rw [hsend] at hleaves ⊢
    rw [hlength] at hshort
    exact (h.toFrames (Nat.not_lt.mp hshort)).sendFrames rfl now hleaves

/-- An event of a writable connection keeps the invariant. -/
theorem send (h : Streams origin source capacity limit first payloads leaves cursor body frames
      exchange) (now : Nat) (files : FileSystem)
    (hleaves : ∀ old next, old.sequence = cursor.sequence → cursor.sequence < next →
      exchange.newest? source = some next →
      (exchange.step (.send now files)).session.cursor.map Cursor.sequence = some next →
      (old.IsComplete payloads ∨ old.sequence + capacity ≤ next ∧
        cursor.offset = old.sent.length) → leaves old next) :
    ∃ cursor' body' frames', Streams origin source capacity limit first payloads leaves cursor'
      body' frames' (exchange.step (.send now files)) := by
  have hflushed := h.withTransport exchange.session.transport.sent_flush
  rw [step] at hleaves ⊢
  by_cases hfails : Transport.FailsHard exchange.session.transport.flush.1
  · rw [Session.send_eq_fail _ _ _ _ hfails]
    exact ⟨cursor, body, frames, hflushed.fail⟩
  · rw [Session.send_eq_sendPhase _ _ _ _ hfails] at hleaves ⊢
    rcases hflushed.phase with hphase | hphase | hphase
    · rw [Session.sendPhase_of_draining _ _ _ _ hphase] at hleaves ⊢
      exact hflushed.sendAnswer now files hleaves
    · rw [Session.sendPhase_of_streaming _ _ _ _ hphase] at hleaves ⊢
      exact hflushed.sendFrames hphase now hleaves
    · rw [Session.sendPhase_of_closed _ _ _ _ hphase]
      exact ⟨cursor, body, frames, hflushed⟩

/-- A session that delivers a stream does not read. -/
theorem receive_eq (h : Streams origin source capacity limit first payloads leaves cursor body
      frames exchange) (now : Nat) (router : Router) (files : FileSystem) :
    exchange.step (.receive now router files) = exchange := by
  have hwants : exchange.session.wantsRead = false := by
    rw [Session.wantsRead]
    rcases h.phase with hphase | hphase | hphase <;> rw [hphase] <;> rfl
  rw [step, Session.receive, hwants]
  rfl

/-- Every event keeps the invariant, for the history and the run that it adds to. -/
theorem step {start : Exchange} {events : List Event}
    (h : Streams origin source capacity limit first payloads
      (Leaves start source capacity payloads events) cursor body frames (start.run events))
    (event : Event) :
    ∃ cursor' body' frames', Streams origin source capacity limit first
      (payloads ++ acceptedBy source limit event.push?.toList)
      (Leaves start source capacity (payloads ++ acceptedBy source limit event.push?.toList)
        (events ++ [event])) cursor' body' frames' (start.run (events ++ [event])) := by
  rw [run_concat]
  -- The run gets one event longer, and with it every reason why a cursor may leave a frame.
  have hmono (later : List Bytes) (old : Segment) (next : Nat)
      (hold : Leaves start source capacity payloads events old next) :=
    hold.append later event
  -- The invariant as the events without a push find it: their history does not grow.
  have hquiet : Streams origin source capacity limit first (payloads ++ [])
      (Leaves start source capacity (payloads ++ []) (events ++ [event])) cursor body frames
      (start.run events) :=
    h.mono (hmono []) [] (by rw [List.append_nil]; exact h.records)
  cases event with
  | push offered =>
    exact ⟨cursor, body, frames, h.mono (hmono _) _ (h.records.pushed offered)⟩
  | network future => exact ⟨cursor, body, frames, hquiet.withTransport rfl⟩
  | receive now router files =>
    rw [h.receive_eq]
    exact ⟨cursor, body, frames, hquiet⟩
  | send now files =>
    -- This event is the one at which the cursor leaves, and the run before it is `events`.
    refine hquiet.send now files fun old next hold hlt hnewest hafter hwhy => ?_
    refine ⟨hold ▸ hlt, events, .send now files, [], rfl, hnewest, ?_, ?_, hwhy.imp_right ?_⟩
    · rw [h.cursor_eq, Option.map_some, hold]
    · rw [run_concat, hafter]
    · rintro ⟨hover, hoffset⟩
      exact ⟨hover, by rw [h.cursor_eq, Option.map_some, hoffset]⟩

/-- The invariant holds along every run. -/
theorem run {start : Exchange}
    (h : Streams origin source capacity limit first payloads
      (Leaves start source capacity payloads []) cursor body frames start) (events : List Event) :
    ∃ cursor' body' frames', Streams origin source capacity limit first
      (payloads ++ acceptedBy source limit (pushes events))
      (Leaves start source capacity (payloads ++ acceptedBy source limit (pushes events)) events)
      cursor' body' frames' (start.run events) := by
  -- Induction from the end: the last event is a step of the run before it.
  induction events using List.reverseRecOn with
  | nil =>
    refine ⟨cursor, body, frames, ?_⟩
    simpa [acceptedBy] using h
  | append_singleton events event ih =>
    obtain ⟨cursor', body', frames', hrun⟩ := ih
    obtain ⟨cursor'', body'', frames'', hstep⟩ := hrun.step event
    refine ⟨cursor'', body'', frames'', ?_⟩
    rw [pushes_concat, acceptedBy_append, ← List.append_assoc]
    exact hstep

end Streams

end MotionJpeg.Exchange
