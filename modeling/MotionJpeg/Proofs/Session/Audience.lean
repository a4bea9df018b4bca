import MotionJpeg.Proofs.Session.Place

/-!
# Audiences

An audience is any number of sessions that share the stores of the sources. Clients connect, ask
for routes and start over, and every session meets its own events, in any order and with pushes at
any time.

* `Audience.step` is what an event does, `Audience.run` what a list of events does.
* `Audience.InPlace` is the invariant: every session is in its place in the same stores.
* `Audience.never_ahead`: no session asks its store for a frame that is yet to come, and none sends
  bytes of another frame than its own.
-/

namespace MotionJpeg

/-- The payloads that a source of these sizes has accepted, by the number of the source. -/
def historyOf (sizes : List (Nat × Nat)) (pushes : List Push) (source : Nat) : List Bytes :=
  match sizes[source]? with
  | none => []
  | some (_, limit) => acceptedBy source limit pushes

/-- More pushes only add to what was accepted. -/
theorem historyOf_prefix_append (sizes : List (Nat × Nat)) (earlier later : List Push)
    (source : Nat) : historyOf sizes earlier source <+: historyOf sizes (earlier ++ later) source := by
  unfold historyOf
  cases sizes[source]? with
  | none => exact List.nil_prefix
  | some size =>
    dsimp only
    rw [acceptedBy_append]
    exact List.prefix_append ..

/-- After any pushes every store has the history of what its source has accepted. -/
theorem Registry.remembers_historyOf (sizes : List (Nat × Nat)) (width height : Nat)
    (pushes : List Push) :
    ((ofSizes sizes width height).pushedAll pushes).Remembers (historyOf sizes pushes) := by
  intro source store hstore
  obtain ⟨capacity, limit, hsize, other, hother, hrecords, -⟩ := exists_records_of_get? hstore
  cases hstore.symm.trans hother
  rwa [historyOf, hsize]

/-- A cursor that asks its store only for what the store has told of, and that has got no more than
there is. -/
structure Cursor.Respects (cursor : Cursor) (store : Store) (isStill : Prop) : Prop where
  /-- The cursor waits for the first frame, or its frame was stored. -/
  place : (store.newest? = none ∧ cursor.sequence = 0 ∧ cursor.offset = 0) ∨
    ∃ newest, store.newest? = some newest ∧ cursor.sequence ≤ newest
  sequence_eq : ∀ frame, store.get? cursor.sequence = some frame → frame.sequence = cursor.sequence
  offset_le : ∀ frame, store.get? cursor.sequence = some frame → cursor.offset ≤ frame.size
  still_offset_le : isStill → ∀ frame, store.get? cursor.sequence = some frame →
    cursor.offset ≤ frame.payload.length

namespace Session

variable {session : Session} {sources : Registry} {history : Nat → List Bytes}

/-- A session in its place keeps to what its store can answer. -/
theorem Placed.respects (h : session.Placed sources history) (hmemory : sources.Remembers history)
    {cursor : Cursor} (hcursor : session.cursor = some cursor) : ∃ store,
      sources.get? cursor.source = some store ∧ cursor.Respects store session.IsStill := by
  have hstore := List.getElem?_eq_getElem (h.source_lt cursor hcursor)
  have hrecords := hmemory _ _ hstore
  have hwithin := h.isWithin cursor hcursor
  refine ⟨_, hstore, ?_, fun frame hframe => ?_, fun frame hframe => ?_, fun hstill frame hframe => ?_⟩
  · -- Without a history the cursor waits, and else its sequence is one of the history.
    rw [hrecords.newest?_eq]
    by_cases hnil : history cursor.source = []
    · rw [if_pos hnil]
      exact Or.inl ⟨rfl, hwithin.sequence_eq hnil, hwithin.offset_eq_zero hnil⟩
    · rw [if_neg hnil]
      exact Or.inr ⟨_, rfl, Nat.le_sub_one_of_lt (hwithin.sequence_lt hnil)⟩
  · obtain ⟨payload, -, hcarries⟩ := hrecords.carries_of_get? hwithin.sequence_lt hframe
    exact hcarries.sequence_eq
  · obtain ⟨payload, hpayload, hcarries⟩ := hrecords.carries_of_get? hwithin.sequence_lt hframe
    have hoffset := hwithin.offset_le
    rwa [wholePart_of_getElem? hpayload, ← hcarries.image_eq, frame.toBytes_image,
      Frame.length_part, ← frame.size_eq] at hoffset
  · obtain ⟨payload, hpayload, hcarries⟩ := hrecords.carries_of_get? hwithin.sequence_lt hframe
    have hoffset := h.offset_le hstill cursor hcursor
    rwa [hpayload, Option.getD_some, ← hcarries.image_eq, frame.toBytes_image] at hoffset

/-- A session without a cursor sends the same whatever the stores hold. -/
theorem send_congr_of_cursor_eq_none (hcursor : session.cursor = none) (now : Nat)
    (files : FileSystem) (others : Registry) :
    session.send now files sources = session.send now files others := by
  -- Whatever sends a body looks at the stores through the cursor alone.
  have hframes {session : Session} (hcursor : session.cursor = none) :
      session.sendFrames now sources = session.sendFrames now others := by
    simp only [sendFrames, hcursor]
  have hbody {session : Session} (hcursor : session.cursor = none) (kind : RouteKind) :
      session.sendBody now files sources kind = session.sendBody now files others kind := by
    cases kind with
    | badRequest | authRequired | notFound | streamInfo | staticFile => rfl
    | still => simp only [sendBody, sendStill, hcursor, Option.bind_none]
    | stream => exact hframes hcursor
  have hanswer {session : Session} (hcursor : session.cursor = none) (kind : RouteKind) :
      session.sendAnswer now files sources kind = session.sendAnswer now files others kind := by
    rw [sendAnswer, sendAnswer, hbody hcursor]
    rcases session.offer_cases now (session.response.drop session.responseSent) with
      ⟨-, transport, -, hoffer⟩ | ⟨-, count, transport, -, -, hoffer⟩
    · rw [hoffer]
    · rw [hoffer]
      dsimp only
      rw [hbody]
      exact hcursor
  by_cases hfails : Transport.FailsHard session.transport.flush.1
  · rw [send_eq_fail _ _ _ _ hfails, send_eq_fail _ _ _ _ hfails]
  · rw [send_eq_sendPhase _ _ _ _ hfails, send_eq_sendPhase _ _ _ _ hfails, sendPhase, sendPhase]
    split
    · rfl
    · rfl
    · exact hframes (by exact hcursor)
    · exact hanswer (by exact hcursor) _

end Session

namespace Exchange

variable {session : Session} {sources : Registry} {history : Nat → List Bytes}

/-- Whatever happens to a session in its place, what it sends after the head of its answer is drawn
from its own frame, and it stays in its place. -/
theorem exists_delivers (h : session.Placed sources history) (hmemory : sources.Remembers history)
    (hsound : session.Sound sources) (event : Event) : ∃ head body,
      session.Delivers sources history head body ((Exchange.mk session sources).step event).session := by
  cases event with
  | push offered => exact ⟨[], [], Session.Placed.delivers_nil h rfl⟩
  | network future => exact ⟨[], [], Session.Placed.delivers_nil (h.congr rfl rfl rfl h.responseSent_lt) rfl⟩
  | receive now router files =>
    exact ⟨[], [], Session.Placed.delivers_nil (h.receive hmemory now router files)
      (session.sent_receive now router files sources)⟩
  | send now files => exact h.send now files hmemory hsound

end Exchange

/-- The sessions of a server and the stores that they share. -/
structure Audience where
  sessions : List Session := []
  sources : Registry

namespace Audience

/-- Something that happens to one of the sessions, or to the stores. -/
inductive Event where
  /-- A client connects. -/
  | join (id : Nat) (peer : SocketAddress) (transport : Transport) (headerLimit chunkSize now : Nat)
  /-- A session is asked for a route. -/
  | begin (index : Nat) (files : FileSystem) (route : Route)
  /-- A session starts over. -/
  | reset (index : Nat)
  /-- A session meets an event of its own, or a payload is pushed. -/
  | meet (index : Nat) (event : Exchange.Event)

/-- The push that an event is. -/
def Event.push? : Event → Option Push
  | meet _ event => event.push?
  | join .. | begin .. | reset _ => none

/-- The pushes among some events. -/
def pushes (events : List Event) : List Push := events.filterMap Event.push?

/-- An audience of nobody, with new stores. -/
def opened (sizes : List (Nat × Nat)) (width height : Nat) : Audience where
  sources := .ofSizes sizes width height

variable (audience : Audience)

/-- The audience after an event. -/
def step : Event → Audience
  | .join id peer transport headerLimit chunkSize now =>
    { audience with
      sessions := audience.sessions ++ [.new id peer transport headerLimit chunkSize now] }
  | .begin index files route =>
    { audience with
      sessions := audience.sessions.modify index (·.respond files audience.sources route) }
  | .reset index => { audience with sessions := audience.sessions.modify index Session.reset }
  | .meet index event =>
    { sessions := audience.sessions.modify index fun session =>
        ((Exchange.mk session audience.sources).step event).session
      sources := audience.sources.pushedAll event.push?.toList }

/-- The audience after some events. -/
def run (events : List Event) : Audience := events.foldl step audience

/-- A run ends with the step for its last event. -/
@[simp]
theorem run_concat (events : List Event) (event : Event) :
    audience.run (events ++ [event]) = (audience.run events).step event :=
  List.foldl_concat ..

/-- One more event adds its push, if it is one. -/
theorem pushes_concat (events : List Event) (event : Event) :
    pushes (events ++ [event]) = pushes events ++ event.push?.toList := by
  rw [pushes, List.filterMap_append]
  cases hpush : event.push? <;> simp [pushes, hpush]

/-- What holds of all sessions, and still of the one that is changed, holds of all afterwards. -/
private theorem forall_mem_modify {P : Session → Prop} {sessions : List Session} {index : Nat}
    {change : Session → Session} (hstay : ∀ session ∈ sessions, P session)
    (hchange : ∀ session ∈ sessions, P (change session)) :
    ∀ session ∈ sessions.modify index change, P session := by
  intro session hmem
  obtain ⟨place, hplace⟩ := List.mem_iff_getElem?.mp hmem
  rw [List.getElem?_modify] at hplace
  obtain ⟨old, hold, rfl⟩ := Option.map_eq_some_iff.mp hplace
  split
  · exact hchange old (List.mem_of_getElem? hold)
  · exact hstay old (List.mem_of_getElem? hold)

/-- The stores hold what was pushed, and all sessions are in their places. -/
structure InPlace (audience : Audience) (sizes : List (Nat × Nat)) (width height : Nat)
    (pushes : List Push) : Prop where
  sources_eq : audience.sources = (Registry.ofSizes sizes width height).pushedAll pushes
  sound : ∀ session ∈ audience.sessions, session.Sound audience.sources
  placed : ∀ session ∈ audience.sessions,
    session.Placed audience.sources (historyOf sizes pushes)

namespace InPlace

variable {audience} {sizes : List (Nat × Nat)} {width height : Nat} {pushes : List Push}

/-- The stores have their histories. -/
theorem remembers (h : audience.InPlace sizes width height pushes) :
    audience.sources.Remembers (historyOf sizes pushes) :=
  h.sources_eq ▸ Registry.remembers_historyOf sizes width height pushes

/-- An event moves no session out of its place. -/
theorem step (h : audience.InPlace sizes width height pushes) (event : Event) :
    (audience.step event).InPlace sizes width height (pushes ++ event.push?.toList) := by
  cases event with
  | join id peer transport headerLimit chunkSize now =>
    simp only [Event.push?, Option.toList_none, List.append_nil]
    refine ⟨h.sources_eq, fun session hmem => ?_, fun session hmem => ?_⟩
    · rcases List.mem_append.mp hmem with hold | hnew
      · exact h.sound session hold
      · rw [List.mem_singleton.mp hnew]
        exact .of_idle (Or.inl rfl) (Nat.zero_le _)
    · rcases List.mem_append.mp hmem with hold | hnew
      · exact h.placed session hold
      · rw [List.mem_singleton.mp hnew]
        exact .of_awaitingHeaders rfl rfl
  | begin index files route =>
    simp only [Event.push?, Option.toList_none, List.append_nil]
    exact ⟨h.sources_eq,
      forall_mem_modify h.sound fun session _ => .respond files session audience.sources route,
      forall_mem_modify h.placed fun session _ => .respond h.remembers session files route⟩
  | reset index =>
    simp only [Event.push?, Option.toList_none, List.append_nil]
    exact ⟨h.sources_eq,
      forall_mem_modify h.sound fun _ _ => .of_idle (Or.inl rfl) (Nat.zero_le _),
      forall_mem_modify h.placed fun _ _ => .of_awaitingHeaders rfl rfl⟩
  | meet index event =>
    have hsize : (audience.sources.pushedAll event.push?.toList).size = audience.sources.size :=
      Registry.size_pushedAll ..
    have hgrows := historyOf_prefix_append sizes pushes event.push?.toList
    -- For the other sessions only the stores change, which may have grown.
    refine ⟨?_, forall_mem_modify ?_ ?_, forall_mem_modify ?_ ?_⟩
    · rw [Registry.pushedAll_append, ← h.sources_eq]
      rfl
    · exact fun session hmem => (h.sound session hmem).congr hsize
    · intro session hmem
      let exchange : Exchange := ⟨session, audience.sources⟩
      have hsound : exchange.session.Sound exchange.sources := h.sound session hmem
      have hstep := Exchange.sound_step hsound event
      rwa [Exchange.sources_step] at hstep
    · exact fun session hmem => (h.placed session hmem).mono hsize hgrows
    · intro session hmem
      obtain ⟨head, body, hdelivers⟩ := Exchange.exists_delivers (h.placed session hmem)
        h.remembers (h.sound session hmem) event
      exact hdelivers.placed.mono hsize hgrows

/-- Nobody is out of place before the first client connects. -/
theorem opened (sizes : List (Nat × Nat)) (width height : Nat) :
    (Audience.opened sizes width height).InPlace sizes width height [] where
  sources_eq := rfl
  sound _ hmem := absurd hmem List.not_mem_nil
  placed _ hmem := absurd hmem List.not_mem_nil

/-- Along every run all sessions are in their places. -/
theorem run (sizes : List (Nat × Nat)) (width height : Nat) (events : List Event) :
    ((Audience.opened sizes width height).run events).InPlace sizes width height
      (Audience.pushes events) := by
  -- Induction from the end, as a run ends with the step for its last event.
  induction events using List.reverseRecOn with
  | nil => exact .opened sizes width height
  | append_singleton events event ih =>
    rw [run_concat, pushes_concat]
    exact ih.step event

end InPlace

/-- Along every run of any number of sessions that share their stores, with pushes that are accepted
or refused: a cursor waits for the first frame of its store, or its frame was stored. So the store
gives it no other frame, and it is not beyond the end of what is sent of that. Whatever happens to
a session, what it sends after the head of its answer is drawn from its own frame, unless it has
no cursor; then it does not depend on any store. -/
theorem never_ahead (sizes : List (Nat × Nat)) (width height : Nat) (events : List Event)
    {session : Session}
    (hmem : session ∈ ((opened sizes width height).run events).sessions) :
    let sources := ((opened sizes width height).run events).sources
    let history := historyOf sizes (pushes events)
    sources.Remembers history ∧
    (∀ cursor, session.cursor = some cursor → ∃ store,
      sources.get? cursor.source = some store ∧ cursor.Respects store session.IsStill) ∧
    (session.phase = .draining .still → session.IsStill) ∧
    (session.phase ∈ [.draining .stream, .streaming] → ¬ session.IsStill) ∧
    (∀ event, ∃ head body, session.Delivers sources history head body
      ((Exchange.mk session sources).step event).session) ∧
    (session.cursor = none → ∀ now files others,
      session.send now files sources = session.send now files others) := by
  intro sources history
  have hrun := InPlace.run sizes width height events
  have hmemory : sources.Remembers history := hrun.remembers
  have hplaced : session.Placed sources history := hrun.placed session hmem
  exact ⟨hmemory, fun cursor hcursor => hplaced.respects hmemory hcursor, hplaced.isStill,
    hplaced.not_isStill,
    fun event => Exchange.exists_delivers hplaced hmemory (hrun.sound session hmem) event,
    fun hcursor now files others => Session.send_congr_of_cursor_eq_none hcursor now files others⟩

section Overwritten

/-- A stream begins before there is a frame. It has sent nine bytes of the first one when the only
slot of its store gets another; a payload that is too large changes nothing. -/
def overwrittenEvents : List Event := [
  .join 1 (.v4 .loopback 5000) {} 4096 16384 0, .begin 0 {} (.stream 0), .meet 0 (.send 1 {}),
  .meet 0 (.push ⟨0, [1]⟩), .meet 0 (.network { usualOutcome := .upTo 9 }), .meet 0 (.send 2 {}),
  .meet 0 (.push ⟨0, [0, 0, 0, 0, 0]⟩), .meet 0 (.push ⟨0, [2]⟩)]

/-- The stream whose frame was overwritten is not ahead of its store. -/
theorem never_ahead_overwritten :
    let sources := ((opened [(1, 4)] 640 480).run overwrittenEvents).sources
    let history := historyOf [(1, 4)] (pushes overwrittenEvents)
    ∃ session ∈ ((opened [(1, 4)] 640 480).run overwrittenEvents).sessions,
      session.cursor = some ⟨0, 0, 9⟩ ∧ history 0 = [[1], [2]] ∧
      sources.Remembers history ∧
      (∀ cursor, session.cursor = some cursor → ∃ store,
        sources.get? cursor.source = some store ∧ cursor.Respects store session.IsStill) ∧
      (session.phase = .draining .still → session.IsStill) ∧
      (session.phase ∈ [.draining .stream, .streaming] → ¬ session.IsStill) ∧
      (∀ event, ∃ head body, session.Delivers sources history head body
        ((Exchange.mk session sources).step event).session) ∧
      (session.cursor = none → ∀ now files others,
        session.send now files sources = session.send now files others) := by
  intro sources history
  have hcursor : (((opened [(1, 4)] 640 480).run overwrittenEvents).sessions.head?.bind
      Session.cursor) = some ⟨0, 0, 9⟩ := by decide +kernel
  obtain ⟨session, hhead, hplace⟩ := Option.bind_eq_some_iff.mp hcursor
  have hmem := List.mem_of_mem_head? hhead
  exact ⟨session, hmem, hplace, by decide +kernel,
    never_ahead [(1, 4)] 640 480 overwrittenEvents hmem⟩

end Overwritten

end Audience

end MotionJpeg
