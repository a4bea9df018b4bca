import MotionJpeg.Proofs.Session.Audience
import MotionJpeg.Proofs.Session.Books
import MotionJpeg.Proofs.Session.Stills
import MotionJpeg.Proofs.Stream.Decomposition

/-!
# The counters of a session

Along every run the counters of a session say what has happened: how many bytes its connection has
handed over and taken, how many answers were given in full, and how many frames were sent to their
end, be it in a stream or as a still.

* `Exchange.total` adds up what the events of a run amount to.
* `Exchange.handedOver`, `Exchange.delivered`, `Exchange.routed` and `Exchange.completedStill` are
  the amounts, each told by what is seen of an event.
* `Exchange.WholeFrames` is the number of frames that a stream has sent to their end.
* `Exchange.counters_exact`: the counters are the totals.
-/

namespace MotionJpeg

/-- An answer is given in this phase, and not yet in full. -/
def Phase.isDraining : Phase → Bool
  | draining _ => true
  | awaitingHeaders | streaming | closed => false

/-- An answer has begun and did not end. -/
def Phase.isAnswering : Phase → Bool
  | draining _ | streaming => true
  | awaitingHeaders | closed => false

/-- A stream goes on, or is over. -/
theorem Phase.Next.of_stream {before after : Phase} (h : before.Next after)
    (hstream : before ∈ [.draining .stream, .streaming, .closed]) :
    after ∈ [.draining .stream, .streaming, .closed] := by
  cases h with
  | stay => exact hstream
  | answer kind => simp at hstream
  | await => simp at hstream
  | stream => simp
  | close => simp

/-- A stream begins when a request was read. -/
theorem Phase.Next.toward_stream {before after : Phase} (h : before.Next after)
    (hstream : after ∈ [.draining .stream, .streaming]) :
    before ∈ [.draining .stream, .streaming] ∨
      before = .awaitingHeaders ∧ after = .draining .stream := by
  cases h with
  | stay => exact Or.inl hstream
  | answer kind => exact Or.inr ⟨rfl, by simpa using hstream⟩
  | await => simp at hstream
  | stream => simp
  | close => simp at hstream

namespace Exchange

/-- What the events of a run amount to, when `amount` is what one of them amounts to. -/
def total (amount : Exchange → Event → Nat) (exchange : Exchange) : List Event → Nat
  | [] => 0
  | event :: events => amount exchange event + (exchange.step event).total amount events

/-- One more event adds its amount. -/
theorem total_concat (amount : Exchange → Event → Nat) (exchange : Exchange) (events : List Event)
    (event : Event) : exchange.total amount (events ++ [event]) =
      exchange.total amount events + amount (exchange.run events) event := by
  induction events generalizing exchange with
  | nil => simp [total]
  | cons first events ih =>
    rw [List.cons_append, total, ih, total, Nat.add_assoc]
    rfl

variable (exchange : Exchange)

/-- How many bytes the connection hands over at an event. -/
def handedOver (event : Event) : Nat :=
  if event.isReceive then
    exchange.session.transport.unread.length - (exchange.step event).session.transport.unread.length
  else 0

/-- The event gives the last of an answer: the session ends because its answer is complete, or a
file was sent to its end and the session waits for another request. -/
def EndsAnswer (event : Event) : Prop :=
  exchange.session.phase.isDraining = true ∧ exchange.flow event = .close .responseComplete ∨
    exchange.session.phase = .draining .staticFile ∧
      (exchange.step event).session.phase = .awaitingHeaders

instance : DecidablePred exchange.EndsAnswer := fun _ => inferInstanceAs (Decidable (_ ∨ _))

/-- The answers that the event gives in full, one at most. -/
def delivered (event : Event) : Nat := if exchange.EndsAnswer event then 1 else 0

/-- Whether an answer begins with the event. -/
def routed (event : Event) : Nat :=
  if exchange.session.phase = .awaitingHeaders ∧
      (exchange.step event).session.phase.isDraining = true
  then 1 else 0

/-- Whether the event completes a still that has a payload. -/
def completedStill (event : Event) : Nat :=
  if exchange.session.CompletesStill exchange.sources (exchange.flow event) then 1 else 0

/-- An event counts the bytes that it brings. -/
theorem bytesReceived_step (event : Event) : (exchange.step event).session.stats.bytesReceived =
    exchange.session.stats.bytesReceived + exchange.handedOver event := by
  cases event with
  | push offered => rfl
  | network future => rfl
  | receive now router files =>
    obtain ⟨-, ⟨bytes, hunread, hstats⟩, -⟩ :=
      exchange.session.reads_receive now files exchange.sources router
    simp only [step, handedOver, Event.isReceive, if_true, hunread, hstats, List.length_append]
    omega
  | send now files =>
    simp only [step, handedOver, Event.isReceive]
    by_cases hphase : exchange.session.phase = .awaitingHeaders ∨ exchange.session.phase = .closed
    · obtain ⟨transport, phase, hsend, -⟩ :=
        exchange.session.send_of_gives_nothing now files exchange.sources hphase
      rw [hsend]
      rfl
    · rw [not_or] at hphase
      have hbooks := exchange.session.books_send now files exchange.sources hphase.1 hphase.2
      exact hbooks.bytesReceived_eq

/-- An event counts the bytes that it gives to the peer. -/
theorem bytesSent_step (event : Event) : (exchange.step event).session.stats.bytesSent +
      exchange.session.transport.sent.length =
    exchange.session.stats.bytesSent + (exchange.step event).session.transport.sent.length := by
  cases event with
  | push offered => rfl
  | network future => rfl
  | receive now router files =>
    obtain ⟨-, ⟨bytes, -, hstats⟩, hsent⟩ :=
      exchange.session.reads_receive now files exchange.sources router
    simp only [step, hstats, hsent]
  | send now files =>
    simp only [step]
    by_cases hphase : exchange.session.phase = .awaitingHeaders ∨ exchange.session.phase = .closed
    · obtain ⟨transport, phase, hsend, hsent, -⟩ :=
        exchange.session.send_of_gives_nothing now files exchange.sources hphase
      rw [hsend, hsent]
    · rw [not_or] at hphase
      have hbooks := exchange.session.books_send now files exchange.sources hphase.1 hphase.2
      exact hbooks.bytesSent_eq

section Step

variable {exchange} (event : Event)

/-- An answer ends with an attempt to send. -/
theorem not_endsAnswer_of_keep (hflow : exchange.flow event = .keep)
    (hstays : (exchange.step event).session.phase = exchange.session.phase) :
    ¬ exchange.EndsAnswer event := by
  rintro (⟨-, hclose⟩ | ⟨hphase, hawaits⟩)
  · cases hflow.symm.trans hclose
  · cases hphase.symm.trans (hstays.symm.trans hawaits)

/-- Only a session that gives an answer comes to the end of one. -/
theorem not_endsAnswer_of_idle (hphase : exchange.session.phase.isDraining = false) :
    ¬ exchange.EndsAnswer event := by
  rintro (⟨hdrains, -⟩ | ⟨hfile, -⟩)
  · cases hphase.symm.trans hdrains
  · rw [hfile] at hphase
    cases hphase

/-- An attempt to read ends no answer. -/
theorem not_endsAnswer_receive (now : Nat) (router : Router) (files : FileSystem) :
    ¬ exchange.EndsAnswer (.receive now router files) := by
  cases hdrains : exchange.session.phase.isDraining with
  | false => exact not_endsAnswer_of_idle _ hdrains
  | true =>
    have hphase : exchange.session.phase ≠ .awaitingHeaders := by
      intro hawaits
      simp [hawaits, Phase.isDraining] at hdrains
    have hreceive := Session.receive_of_ne hphase now router files exchange.sources
    exact not_endsAnswer_of_keep _ (by rw [flow, hreceive]) (by rw [step, hreceive])

/-- An attempt to send ends an answer exactly if it delivers one. -/
theorem endsAnswer_send_iff (h : exchange.session.Sound exchange.sources)
    (hawaits : exchange.session.phase ≠ .awaitingHeaders)
    (hopen : exchange.session.phase ≠ .closed) (now : Nat) (files : FileSystem) :
    exchange.EndsAnswer (.send now files) ↔
      Session.IsDelivered (exchange.session.send now files exchange.sources) := by
  have hturn := h.send now files hopen
  cases hphase : exchange.session.phase with
  | awaitingHeaders => exact absurd hphase hawaits
  | closed => exact absurd hphase hopen
  | streaming =>
    -- A stream does not end, but for a failure.
    rw [hphase] at hturn
    have hflow := hturn.of_stream (Or.inr rfl) not_false
    refine iff_of_false (not_endsAnswer_of_idle _ (by rw [hphase]; rfl)) ?_
    rintro (hcomplete | hwaits)
    · rw [hcomplete] at hflow
      simp at hflow
    · rcases hturn.next.of_streaming with hnext | hnext <;> cases hnext.symm.trans hwaits
  | draining kind =>
    constructor
    · rintro (⟨-, hflow⟩ | ⟨-, hnext⟩)
      · exact Or.inl hflow
      · exact Or.inr hnext
    · rintro (hflow | hnext)
      · exact Or.inl ⟨by rw [hphase]; rfl, hflow⟩
      · exact Or.inr ⟨(hnext ▸ hturn.next).of_awaitingHeaders.resolve_left hawaits, hnext⟩

/-- An event counts the answer that it gives in full. -/
theorem requestsServed_step (h : exchange.session.Sound exchange.sources) (event : Event) :
    (exchange.step event).session.stats.requestsServed =
      exchange.session.stats.requestsServed + exchange.delivered event := by
  cases event with
  | push offered => rw [delivered, if_neg (not_endsAnswer_of_keep _ rfl rfl)]; rfl
  | network future => rw [delivered, if_neg (not_endsAnswer_of_keep _ rfl rfl)]; rfl
  | receive now router files =>
    obtain ⟨-, ⟨bytes, -, hstats⟩, -⟩ :=
      exchange.session.reads_receive now files exchange.sources router
    rw [delivered, if_neg (not_endsAnswer_receive now router files), step, hstats]
    rfl
  | send now files =>
    by_cases hphase : exchange.session.phase = .awaitingHeaders ∨ exchange.session.phase = .closed
    · have hidle : exchange.session.phase.isDraining = false := by
        rcases hphase with hphase | hphase <;> rw [hphase] <;> rfl
      obtain ⟨transport, phase, hsend, -⟩ :=
        exchange.session.send_of_gives_nothing now files exchange.sources hphase
      rw [delivered, if_neg (not_endsAnswer_of_idle _ hidle), step, hsend]
      rfl
    · rw [not_or] at hphase
      have hbooks := exchange.session.books_send now files exchange.sources hphase.1 hphase.2
      rw [delivered, if_congr (endsAnswer_send_iff h hphase.1 hphase.2 now files) rfl rfl]
      exact hbooks.requestsServed_eq

/-- With its answer a session is over, or it waits for another request. -/
theorem EndsAnswer.phases (hends : exchange.EndsAnswer event)
    (h : exchange.session.Sound exchange.sources) : exchange.session.phase.isDraining = true ∧
      (exchange.step event).session.phase.isAnswering = false := by
  rcases hends with ⟨hdrains, hflow⟩ | ⟨hfile, hawaits⟩
  · refine ⟨hdrains, ?_⟩
    have hopen : exchange.session.phase ≠ .closed := by
      intro hclosed
      rw [hclosed] at hdrains
      cases hdrains
    have hcloses := ((turn h hopen event).closes_iff hopen).mp ⟨_, hflow, by decide⟩
    rw [hcloses]
    rfl
  · rw [hfile, hawaits]
    exact ⟨rfl, rfl⟩

/-- What is delivered was begun before, by this event or an earlier one. -/
theorem delivered_add_le (h : exchange.session.Sound exchange.sources) (event : Event) :
    exchange.delivered event + (exchange.step event).session.phase.isAnswering.toNat ≤
      exchange.session.phase.isAnswering.toNat + exchange.routed event := by
  by_cases hends : exchange.EndsAnswer event
  · obtain ⟨hdrains, hnext⟩ := hends.phases event h
    have hanswers : exchange.session.phase.isAnswering = true := by
      cases hphase : exchange.session.phase <;> simp_all [Phase.isDraining, Phase.isAnswering]
    rw [delivered, if_pos hends, hnext, hanswers]
    exact Nat.le_add_right 1 _
  · rw [delivered, if_neg hends, Nat.zero_add]
    -- The session gives an answer now, so it did before, unless the event has begun it.
    have hnext := next_step h event
    rw [routed]
    generalize exchange.session.phase = before at hnext ⊢
    generalize (exchange.step event).session.phase = after at hnext ⊢
    cases hnext with
    | stay => exact Nat.le_add_right _ _
    | answer kind => exact Nat.le_add_left 1 0
    | await => exact Nat.zero_le _
    | stream => exact Nat.le_add_right 1 _
    | close => exact Nat.zero_le _

end Step

/-- The stores hold what was pushed, and the session is in its place and not at the end of a
still. -/
structure InPlace (exchange : Exchange) (sizes : List (Nat × Nat)) (width height : Nat)
    (pushes : List Push) : Prop where
  sources_eq : exchange.sources = (Registry.ofSizes sizes width height).pushedAll pushes
  sound : exchange.session.Sound exchange.sources
  placed : exchange.session.Placed exchange.sources (historyOf sizes pushes)
  hasMore : exchange.session.HasMore (historyOf sizes pushes)

namespace InPlace

variable {exchange} {sizes : List (Nat × Nat)} {width height : Nat} {pushes : List Push}

/-- The stores have their histories. -/
theorem remembers (h : exchange.InPlace sizes width height pushes) :
    exchange.sources.Remembers (historyOf sizes pushes) :=
  h.sources_eq ▸ Registry.remembers_historyOf sizes width height pushes

/-- A session that does not stream counts a frame exactly if it completes a still. -/
theorem framesSent_step (h : exchange.InPlace sizes width height pushes)
    (hstream : exchange.session.phase ∉ [.draining .stream, .streaming]) (event : Event) :
    (exchange.step event).session.stats.framesSent =
      exchange.session.stats.framesSent + exchange.completedStill event := by
  have hnone {event : Event} (hflow : exchange.flow event = .keep) :
      exchange.completedStill event = 0 := by
    rw [completedStill, hflow, if_neg Session.not_completesStill_keep]
  cases event with
  | push offered => rw [hnone rfl]; rfl
  | network future => rw [hnone rfl]; rfl
  | receive now router files =>
    obtain ⟨-, ⟨bytes, -, hstats⟩, -⟩ :=
      exchange.session.reads_receive now files exchange.sources router
    have hincomplete : ¬ exchange.session.CompletesStill exchange.sources
        (exchange.flow (.receive now router files)) := by
      rintro ⟨hphase, hflow, -⟩
      rw [flow, Session.receive_of_ne (by simp [hphase])] at hflow
      cases hflow
    rw [completedStill, if_neg hincomplete, step, hstats]
    rfl
  | send now files =>
    have hshows := Session.shows_send now files h.hasMore h.placed h.remembers h.sound hstream
    exact hshows.framesSent_eq

/-- No event moves the session out of its place. -/
theorem step (h : exchange.InPlace sizes width height pushes) (event : Event) :
    (exchange.step event).InPlace sizes width height (pushes ++ event.push?.toList) := by
  have hgrows := historyOf_prefix_append sizes pushes event.push?.toList
  have hsources : (exchange.step event).sources =
      (Registry.ofSizes sizes width height).pushedAll (pushes ++ event.push?.toList) := by
    rw [sources_step, h.sources_eq, Registry.pushedAll_append]
  obtain ⟨head, body, hdelivers⟩ := exists_delivers h.placed h.remembers h.sound event
  have hsize : (exchange.step event).sources.size = exchange.sources.size := by
    rw [sources_step, Registry.size_pushedAll]
  refine ⟨hsources, sound_step h.sound event, hdelivers.placed.mono hsize hgrows, ?_⟩
  refine Session.HasMore.mono ?_ hdelivers.placed hgrows
  cases event with
  | push offered => exact h.hasMore
  | network future => exact h.hasMore
  | receive now router files => exact h.hasMore.receive files exchange.sources now router
  | send now files =>
    by_cases hstream : exchange.session.phase ∈ [.draining .stream, .streaming]
    · have hopen : exchange.session.phase ≠ .closed := fun hclosed => by simp [hclosed] at hstream
      refine .of_ne fun hstill => ?_
      have hnext := (h.sound.send now files hopen).next
      rw [show (exchange.session.send now files exchange.sources).2.phase = _ from hstill] at hnext
      generalize exchange.session.phase = before at hstream hnext
      cases hnext <;> simp at hstream
    · exact (Session.shows_send now files h.hasMore h.placed h.remembers h.sound hstream).hasMore

/-- A new session is in its place. -/
theorem new (sizes : List (Nat × Nat)) (width height : Nat) (earlier : List Push) (id : Nat)
    (peer : SocketAddress) (transport : Transport) (headerLimit chunkSize now : Nat) :
    InPlace ⟨.new id peer transport headerLimit chunkSize now,
      (Registry.ofSizes sizes width height).pushedAll earlier⟩ sizes width height earlier where
  sources_eq := rfl
  sound := .of_idle (Or.inl rfl) (Nat.zero_le _)
  placed := .of_awaitingHeaders rfl rfl
  hasMore := .of_ne Phase.noConfusion

/-- Along every run the session stays in its place. -/
theorem run {earlier : List Push} (h : exchange.InPlace sizes width height earlier)
    (events : List Event) :
    (exchange.run events).InPlace sizes width height (earlier ++ Exchange.pushes events) := by
  induction events using List.reverseRecOn with
  | nil => simpa using h
  | append_singleton events event ih =>
    rw [run_concat, pushes_concat, ← List.append_assoc]
    exact ih.step event

end InPlace

/-- A run goes on from where the first events of it lead. -/
theorem run_append_cons (start : Exchange) (done : List Event) (event : Event) (rest : List Event) :
    start.run (done ++ event :: rest) = (start.run (done ++ [event])).run rest := by
  simp [Exchange.run]

/-- None of the events begins a stream. -/
def NoStream (start : Exchange) (events : List Event) : Prop :=
  start.Throughout (fun exchange event =>
    (exchange.step event).session.phase ≠ .draining .stream) events

/-- How many frames a stream has sent to their end, when this was accepted `earlier` by sources of
these sizes. -/
inductive WholeFrames (start : Exchange) (sizes : List (Nat × Nat)) (earlier : List Push)
    (events : List Event) : Nat → Prop where
  | none (hnone : start.NoStream events) : WholeFrames start sizes earlier events 0
  /-- One of the events begins a stream, and what is sent from there on are the head and segments of
  frames. -/
  | stream {done : List Event} {event : Event} {rest : List Event} {cursor : Cursor}
      {capacity limit headSent : Nat} {segments : List Segment}
      (hevents : events = done ++ event :: rest)
      (hbegins : (start.run (done ++ [event])).session.phase = .draining .stream)
      (hcursor : (start.run (done ++ [event])).session.cursor = some cursor)
      (hsize : sizes[cursor.source]? = some (capacity, limit))
      (hsegments : Decomposes (start.run (done ++ [event])) cursor.source (max capacity 1)
        (acceptedBy cursor.source limit (earlier ++ pushes events)) rest segments)
      (hsent : (start.run events).session.transport.sent =
        (start.run (done ++ [event])).session.transport.sent ++
          (Http.Reply.streamHeader.take headSent ++ segments.flatMap Segment.sent)) :
      WholeFrames start sizes earlier events
        (segments.countP (·.IsComplete (acceptedBy cursor.source limit (earlier ++ pushes events))))

/-- How far a session has come that counts from zero: no stream was begun and the stills were
counted, or a stream was begun and nothing else is counted any more. -/
inductive Stage (start : Exchange) (events : List Event) : Prop where
  | apart (hnone : start.NoStream events)
      (hphase : (start.run events).session.phase ∉ [.draining .stream, .streaming])
      (hframes : (start.run events).session.stats.framesSent = start.total completedStill events)
  | streams {done : List Event} {event : Event} {rest : List Event} {origin : Session}
      {files : FileSystem} {source : Nat} {store : Store}
      (hevents : events = done ++ event :: rest) (hpush : event.push? = none)
      (hbegins : start.run (done ++ [event]) =
        Exchange.begin origin files (start.run done).sources (.stream source))
      (hstore : (start.run done).sources.get? source = some store)
      (hframes : origin.stats.framesSent = start.total completedStill events)
      (hphase : (start.run events).session.phase ∈ [.draining .stream, .streaming, .closed])

/-- A session begins with a stream only if it was asked for one that there is. -/
theorem exists_of_respond_stream {origin : Session} {files : FileSystem} {sources : Registry}
    {route : Route} (h : (origin.respond files sources route).phase = .draining .stream) :
    ∃ source store, route = .stream source ∧ sources.get? source = some store := by
  cases route with
  | badRequest | authRequired | notFound | streamInfo => cases h
  | stream source =>
    rw [Session.respond] at h
    cases hstore : sources.get? source with
    | none =>
      rw [hstore] at h
      cases h
    | some store => exact ⟨source, store, rfl, hstore⟩
  | still source | staticFile path length mediaType =>
    rw [Session.respond] at h
    split at h <;> cases h

/-- The session that begins with a stream has read a request for it with this event. -/
theorem exists_begin {exchange : Exchange} (hawaits : exchange.session.phase = .awaitingHeaders)
    {event : Event} (hbegins : (exchange.step event).session.phase = .draining .stream) :
    ∃ origin files source store, event.push? = none ∧
      exchange.step event = Exchange.begin origin files exchange.sources (.stream source) ∧
      exchange.sources.get? source = some store ∧
      origin.stats.framesSent = exchange.session.stats.framesSent := by
  cases event with
  | push offered => cases hawaits.symm.trans hbegins
  | network future => cases hawaits.symm.trans hbegins
  | send now files =>
    obtain ⟨transport, phase, hsend, -, -, hphase⟩ :=
      exchange.session.send_of_gives_nothing now files exchange.sources (Or.inl hawaits)
    rw [step, hsend] at hbegins
    rw [hawaits] at hphase
    rcases hphase with hphase | hphase <;> cases hphase.symm.trans hbegins
  | receive now router files =>
    rw [step] at hbegins ⊢
    rcases exchange.session.receive_goesOn_or_responds files exchange.sources now router with
      ⟨hphase | hphase, -⟩ | ⟨origin, route, hresponds, -, hframes⟩
    · cases hawaits.symm.trans (hphase.symm.trans hbegins)
    · cases hphase.symm.trans hbegins
    · rw [hresponds] at hbegins ⊢
      obtain ⟨source, store, rfl, hstore⟩ := exists_of_respond_stream hbegins
      exact ⟨origin, files, source, store, rfl, rfl, hstore, hframes⟩

namespace Stage

variable {start : Exchange} {events : List Event} {sizes : List (Nat × Nat)} {width height : Nat}
  {pushes : List Push}

/-- One more event may begin a stream, if there was none. -/
theorem step (h : Stage start events)
    (hplace : (start.run events).InPlace sizes width height pushes) (event : Event) :
    Stage start (events ++ [event]) := by
  have hnext := next_step hplace.sound event
  cases h with
  | @streams done first rest origin files source store hevents hpush hbegins hstore hframes
      hphase =>
    -- No still is completed by a session that streams.
    have hnone : (start.run events).completedStill event = 0 := by
      refine if_neg fun hcompletes => ?_
      rw [hcompletes.1] at hphase
      simp at hphase
    have hlonger : events ++ [event] = done ++ first :: (rest ++ [event]) := by
      rw [hevents, List.append_assoc, List.cons_append]
    refine .streams hlonger hpush hbegins hstore ?_ ?_
    · rw [total_concat, hnone, Nat.add_zero, hframes]
    · rw [run_concat]
      exact hnext.of_stream hphase
  | apart hnone hphase hframes =>
    have hcount := hplace.framesSent_step hphase event
    by_cases hbegins : ((start.run events).step event).session.phase = .draining .stream
    · have hawaits : (start.run events).session.phase = .awaitingHeaders :=
        ((hnext.toward_stream (by simp [hbegins])).resolve_left hphase).1
      obtain ⟨origin, files, source, store, hpush, hstep, hstore, horigin⟩ :=
        exists_begin hawaits hbegins
      refine .streams rfl hpush (by rw [run_concat]; exact hstep) hstore ?_ ?_
      · have hincomplete : (start.run events).completedStill event = 0 := by
          refine if_neg fun hcompletes => ?_
          cases hawaits.symm.trans hcompletes.1
        rw [total_concat, hincomplete, Nat.add_zero, horigin, hframes]
      · rw [run_concat, hbegins]
        simp
    · refine .apart (throughout_concat_iff.mpr ⟨hnone, hbegins⟩) ?_ ?_
      · rw [run_concat]
        intro hstream
        rcases hnext.toward_stream hstream with hbefore | ⟨-, hafter⟩
        · exact hphase hbefore
        · exact hbegins hafter
      · rw [run_concat, total_concat, hcount, hframes]

/-- Along every run of a session that counts from zero. -/
theorem run {earlier : List Push} (hplace : start.InPlace sizes width height earlier)
    (hphase : start.session.phase = .awaitingHeaders)
    (hframes : start.session.stats.framesSent = 0) (events : List Event) : Stage start events := by
  induction events using List.reverseRecOn with
  | nil => exact .apart throughout_nil (by simp [hphase]) (by simpa [total] using hframes)
  | append_singleton events event ih => exact ih.step (hplace.run events) event

/-- The frames that are counted are those of a stream and the completed stills. -/
theorem exists_wholeFrames {earlier : List Push} (h : Stage start events)
    (hplace : start.InPlace sizes width height earlier) :
    ∃ whole, start.WholeFrames sizes earlier events whole ∧
      (start.run events).session.stats.framesSent = whole + start.total completedStill events := by
  cases h with
  | apart hnone hphase hframes => exact ⟨0, .none hnone, by rw [hframes, Nat.zero_add]⟩
  | @streams done event rest origin files source store hevents hpush hbegins hstore hframes
      hphase =>
    have hsources := (hplace.run done).sources_eq
    have hrun : start.run events = (start.run (done ++ [event])).run rest := by
      rw [hevents, run_append_cons]
    have hpushes : earlier ++ pushes events = earlier ++ pushes done ++ pushes rest := by
      rw [hevents, List.append_assoc, pushes, List.filterMap_append, List.filterMap_cons_none hpush]
      rfl
    rw [hsources] at hbegins hstore
    have hcursor : (start.run (done ++ [event])).session.cursor = some (.bind source store) := by
      rw [hbegins, begin, Session.respond]
      simp only [hstore]
    have hstream : (start.run (done ++ [event])).session.phase = .draining .stream := by
      rw [hbegins, begin, Session.respond]
      simp only [hstore]
      rfl
    obtain ⟨capacity, limit, hsize, -⟩ := Registry.exists_records_of_get? hstore
    -- From where the stream begins its segments are known, and the frames that they complete.
    obtain ⟨headSent, segments, hsegments, -, hsent, hcount⟩ :=
      exists_decomposition hsize width height (earlier ++ pushes done) origin files rest
    rw [← hbegins, ← hpushes] at hsegments
    rw [← hbegins, ← hrun] at hsent hcount
    rw [← hpushes] at hcount
    have hbefore :
        (start.run (done ++ [event])).session.transport.sent = origin.transport.sent := by
      rw [hbegins, begin, Session.transport_respond]
    rw [← hbefore] at hsent
    refine ⟨_, .stream hevents hstream hcursor hsize hsegments hsent, ?_⟩
    rw [hcount, hframes, Nat.add_comm]
    rfl

end Stage

/-- Along every run the counters of a session grow by what the events amount to, and no more answers
were given than were begun. -/
theorem totals_run {start : Exchange} (h : start.session.Sound start.sources)
    (hzero : start.session.stats = {}) (hphase : start.session.phase = .awaitingHeaders)
    (events : List Event) :
    let final := (start.run events).session
    final.stats.bytesReceived = start.total handedOver events ∧
      final.transport.sent.length = start.session.transport.sent.length + final.stats.bytesSent ∧
      final.stats.requestsServed = start.total delivered events ∧
      final.stats.requestsServed + final.phase.isAnswering.toNat ≤ start.total routed events := by
  induction events using List.reverseRecOn with
  | nil => simp [total, hzero, hphase, Phase.isAnswering]
  | append_singleton events event ih =>
    have hsound := sound_run h events
    obtain ⟨hreceived, hsent, hserved, hrouted⟩ := ih
    have hreads := (start.run events).bytesReceived_step event
    have hwrites := (start.run events).bytesSent_step event
    have hserves := requestsServed_step hsound event
    have hroutes := delivered_add_le hsound event
    simp only [run_concat, total_concat]
    refine ⟨by omega, by omega, by omega, by omega⟩

/-- Whatever the connection does, whatever is pushed and whichever files there are, the counters of
a new session are exact at every time: the bytes that the connection has handed over and taken, the
answers that were given in full, and the frames that were sent to their end. No more answers were
given than were begun. An attempt to send whose last write fails counts what was taken before, and
nothing else. -/
theorem counters_exact (sizes : List (Nat × Nat)) (width height : Nat) (earlier : List Push)
    (id : Nat) (peer : SocketAddress) (transport : Transport) (headerLimit chunkSize now : Nat)
    (events : List Event) :
    let start : Exchange := ⟨.new id peer transport headerLimit chunkSize now,
      (Registry.ofSizes sizes width height).pushedAll earlier⟩
    let final := start.run events
    let stats := final.session.stats
    stats.bytesReceived = start.total handedOver events ∧
      final.session.transport.sent.length = transport.sent.length + stats.bytesSent ∧
      stats.requestsServed = start.total delivered events ∧
      stats.requestsServed ≤ start.total routed events ∧
      (∃ whole, start.WholeFrames sizes earlier events whole ∧
        stats.framesSent = whole + start.total completedStill events) ∧
      ∀ now files, final.session.Refused (final.session.send now files final.sources).2 := by
  intro start final stats
  have hplace : start.InPlace sizes width height earlier :=
    .new sizes width height earlier id peer transport headerLimit chunkSize now
  obtain ⟨hreceived, hsent, hserved, hrouted⟩ := totals_run hplace.sound rfl rfl events
  refine ⟨hreceived, hsent, hserved, Nat.le_of_add_right_le hrouted, ?_, fun now files => ?_⟩
  · exact (Stage.run hplace rfl rfl events).exists_wholeFrames hplace
  · exact final.session.refused_send now files final.sources

end Exchange

end MotionJpeg
