import MotionJpeg.Proofs.Session.Books
import MotionJpeg.Proofs.Session.LifeCycle
import MotionJpeg.Proofs.Session.Past

/-!
# Reused connections

After a file a session waits for another request on its connection. Nothing of the answers that it
gave is left then, so from there on it behaves like the session of a client that has just
connected. Only its number, the time of its last activity and its counters tell that it is older.

* `Session.StartsOver` says that nothing is left of earlier answers.
* `Exchange.startsOver_step`: a session that comes to wait for a request again starts over.
* `Exchange.Appearance` is what the server and the client see of an event.
* `Exchange.reused_eq_new`: a session that starts over cannot be told from a new one.
-/

namespace MotionJpeg

namespace Session

/-- The session waits for a request and has nothing left of earlier ones. -/
structure StartsOver (session : Session) : Prop where
  phase_eq : session.phase = .awaitingHeaders
  request_eq : session.request = []
  response_eq : session.response = .empty
  responseSent_eq : session.responseSent = 0
  cursor_eq : session.cursor = none
  file_eq : session.file = none

/-- A session that starts over differs from a new one of its client in its past alone. -/
theorem StartsOver.samePresent {session begun : Session} (h : session.StartsOver)
    {id : Nat} {peer : SocketAddress} {transport : Transport} {headerLimit chunkSize now : Nat}
    (hbegun : begun = .new id peer transport headerLimit chunkSize now)
    (hclient : begun.SameClient session) (number created : Nat) {apart : Nat → Nat → Prop}
    (hapart : apart created session.lastActivity) :
    SamePresent id session.stats apart
      (.new number peer session.transport headerLimit chunkSize created) session := by
  subst hbegun
  refine ⟨session.lastActivity, hapart, ?_⟩
  obtain ⟨hid, hpeer, hheaderLimit, hchunkSize⟩ := hclient
  obtain ⟨hphase, hrequest, hresponse, hsent, hcursor, hfile⟩ := h
  obtain ⟨_, _, _, _, _, _, _, _, _, _, _, _, stats, _, _⟩ := session
  obtain rfl := hid
  simp_all [Session.new, SessionStats.plus]

variable {session : Session} (now : Nat) (files : FileSystem)

/-- A file that makes its session wait for a request makes it start over. -/
theorem startsOver_sendFile (hphase : session.phase ≠ .awaitingHeaders)
    (hawaits : (session.sendFile now files).2.phase = .awaitingHeaders) :
    (session.sendFile now files).2.StartsOver := by
  rw [sendFile] at hawaits ⊢
  cases hfile : session.file with
  | none =>
    rw [hfile] at hawaits
    cases hawaits
  | some file =>
    rw [hfile] at hawaits
    dsimp only at hawaits ⊢
    cases hread : files.readSome session.chunkSize file with
    | error fault =>
      rw [hread] at hawaits
      cases hawaits
    | ok bytes =>
      rw [hread] at hawaits
      dsimp only at hawaits ⊢
      split at hawaits
      next hempty =>
        rw [if_pos hempty]
        exact ⟨rfl, rfl, rfl, rfl, rfl, rfl⟩
      next hempty =>
        -- As long as something of the file is left the phase does not change, but for its end.
        have htries := session.tries_offer now bytes
        generalize session.offer now bytes = attempt at htries hawaits
        obtain ⟨_ | count, next⟩ := attempt
        · cases hawaits
        · exact absurd (htries.phase_eq.symm.trans hawaits) hphase

/-- An attempt to send that makes a session wait for a request makes it start over. -/
theorem startsOver_send (sources : Registry) (hphase : session.phase = .draining .staticFile)
    (hawaits : (session.send now files sources).2.phase = .awaitingHeaders) :
    (session.send now files sources).2.StartsOver := by
  have hanswer {session : Session} (hphase : session.phase = .draining .staticFile)
      (hawaits : (session.sendAnswer now files sources .staticFile).2.phase = .awaitingHeaders) :
      (session.sendAnswer now files sources .staticFile).2.StartsOver := by
    have hopen : session.phase ≠ .awaitingHeaders := by simp [hphase]
    by_cases hleft : session.responseSent < session.response.length
    · rcases session.sendAnswer_cases now files sources .staticFile hleft with
        ⟨-, transport, -, hresult⟩ | ⟨-, count, transport, -, -, -, hresult⟩
      · rw [hresult] at hawaits
        cases hawaits
      · rw [hresult] at hawaits ⊢
        split at hawaits
        · exact absurd hawaits hopen
        next hall =>
          rw [if_neg hall]
          exact startsOver_sendFile now files (by exact hopen) hawaits
    · rw [sendAnswer, if_neg hleft] at hawaits ⊢
      exact startsOver_sendFile now files hopen hawaits
  by_cases hfails : Transport.FailsHard session.transport.flush.1
  · rw [session.send_eq_fail now files sources hfails] at hawaits
    cases hawaits
  · rw [session.send_eq_sendPhase now files sources hfails] at hawaits ⊢
    have hflushed : { session with transport := session.transport.flush.2 }.phase =
        .draining .staticFile := hphase
    rw [sendPhase_of_draining _ _ _ _ hflushed] at hawaits ⊢
    exact hanswer hflushed hawaits

end Session

namespace Exchange

variable {exchange : Exchange}

/-- A session that comes to wait for a request starts over, whatever it did before. -/
theorem startsOver_step (h : exchange.session.Sound exchange.sources) {event : Event}
    (hphase : exchange.session.phase ≠ .awaitingHeaders)
    (hawaits : (exchange.step event).session.phase = .awaitingHeaders) :
    (exchange.step event).session.StartsOver := by
  have hopen : exchange.session.phase ≠ .closed := by
    intro hclosed
    obtain ⟨transport, hstep⟩ := step_of_closed hclosed event
    rw [hstep, hclosed] at hawaits
    cases hawaits
  have hnext : exchange.session.phase.Next .awaitingHeaders := hawaits ▸ (turn h hopen event).next
  have hfile : exchange.session.phase = .draining .staticFile :=
    hnext.of_awaitingHeaders.resolve_left hphase
  -- Nothing but an attempt to send leads from a file to the next request.
  cases event with
  | push offered => exact absurd hawaits hphase
  | network future => exact absurd hawaits hphase
  | receive now router files =>
    rw [step, Session.receive_of_ne hphase] at hawaits
    exact absurd hawaits hphase
  | send now files => exact Session.startsOver_send now files exchange.sources hfile hawaits

/-- A session stays that of its client, whatever happens. -/
theorem sameClient_step (exchange : Exchange) (event : Event) :
    exchange.session.SameClient (exchange.step event).session := by
  cases event with
  | push offered => exact .refl _
  | network future => exact ⟨rfl, rfl, rfl, rfl⟩
  | receive now router files =>
    exact (exchange.session.reads_receive now files exchange.sources router).client
  | send now files => exact exchange.session.sameClient_send now files exchange.sources

/-- A session stays that of its client along every run. -/
theorem sameClient_run (exchange : Exchange) (events : List Event) :
    exchange.session.SameClient (exchange.run events).session := by
  induction events using List.reverseRecOn with
  | nil => exact .refl _
  | append_singleton events event ih =>
    rw [run_concat]
    exact ih.trans ((exchange.run events).sameClient_step event)

/-- What the server and the client see of an event: the flow that it has come to, and after it the
phase, the cursor, what the session wants to do next and everything that was written. -/
structure Appearance where
  flow : Flow
  phase : Phase
  cursor : Option Cursor
  wantsRead : Bool
  wantsWrite : Bool
  written : Bytes
  deriving DecidableEq, Repr

/-- What is seen of an event. -/
def appearance (exchange : Exchange) (event : Event) : Appearance :=
  let next := exchange.step event
  { flow := exchange.flow event
    phase := next.session.phase
    cursor := next.session.cursor
    wantsRead := next.session.wantsRead
    wantsWrite := next.session.wantsWrite next.sources
    written := next.session.transport.sent }

/-- What is seen of some events, one after the other. -/
def appearances (exchange : Exchange) : List Event → List Appearance
  | [] => []
  | event :: events => exchange.appearance event :: (exchange.step event).appearances events

/-- The sessions of both exchanges differ in their past alone, and the stores do not differ. -/
structure SamePresent (number : Nat) (earlier : SessionStats) (apart : Nat → Nat → Prop)
    (exchange other : Exchange) : Prop where
  session : exchange.session.SamePresent number earlier apart other.session
  sources_eq : other.sources = exchange.sources

namespace SamePresent

variable {number : Nat} {earlier : SessionStats} {apart : Nat → Nat → Prop}
  {exchange other : Exchange}

/-- An event is the same for both, and leaves them with the same present. -/
theorem step (hnow : ∀ now, apart now now) (h : SamePresent number earlier apart exchange other)
    (event : Event) : other.flow event = exchange.flow event ∧
      SamePresent number earlier apart (exchange.step event) (other.step event) := by
  obtain ⟨session, sources⟩ := exchange
  obtain ⟨old, stores⟩ := other
  obtain ⟨hsession, hsources⟩ := h
  dsimp only at hsession hsources
  subst hsources
  cases event with
  | push offered => exact ⟨rfl, hsession, rfl⟩
  | network future =>
    obtain ⟨last, hlast, rfl⟩ := hsession
    exact ⟨rfl, ⟨last, hlast, rfl⟩, rfl⟩
  | receive now router files =>
    have hsame := hsession.receive (hnow now) router files stores
    exact ⟨hsame.1.symm, hsame.2, rfl⟩
  | send now files =>
    have hsame := hsession.send (hnow now) files stores
    exact ⟨hsame.1.symm, hsame.2, rfl⟩

/-- Both look the same after an event. -/
theorem appearance_eq (hnow : ∀ now, apart now now)
    (h : SamePresent number earlier apart exchange other) (event : Event) :
    other.appearance event = exchange.appearance event := by
  obtain ⟨hflow, ⟨last, -, hsession⟩, hsources⟩ := h.step hnow event
  simp only [appearance, hflow, hsession, hsources]
  rfl

/-- Both look the same along every run, and their presents are the same at its end. -/
theorem run (hnow : ∀ now, apart now now) (h : SamePresent number earlier apart exchange other)
    (events : List Event) : other.appearances events = exchange.appearances events ∧
      SamePresent number earlier apart (exchange.run events) (other.run events) := by
  induction events generalizing exchange other with
  | nil => exact ⟨rfl, h⟩
  | cons event events ih =>
    obtain ⟨happears, hfinal⟩ := ih (h.step hnow event).2
    exact ⟨congrArg₂ List.cons (h.appearance_eq hnow event) happears, hfinal⟩

end SamePresent

/-- A session that has just come to wait for a request again behaves like one that was created over
its connection with the same limits, whatever happens later. Every event comes to the same flow,
phase, cursor and wishes, and the same bytes are written. The sessions differ in their numbers, in
the time of the last activity until bytes are moved again, and in the counters, which go on from
what they were. -/
theorem reused_eq_new (id : Nat) (peer : SocketAddress) (transport : Transport)
    (headerLimit chunkSize now : Nat) (sources : Registry) (done : List Event) (event : Event)
    (number created : Nat) :
    let before := (Exchange.mk (.new id peer transport headerLimit chunkSize now) sources).run done
    let reused := before.step event
    let fresh : Exchange :=
      ⟨.new number peer reused.session.transport headerLimit chunkSize created, reused.sources⟩
    before.session.phase ≠ .awaitingHeaders → reused.session.phase = .awaitingHeaders →
      ∀ later, let old := (reused.run later).session
        let new := (fresh.run later).session
        reused.appearances later = fresh.appearances later ∧
        (reused.run later).sources = (fresh.run later).sources ∧
        old = { new with
          id := id
          lastActivity := old.lastActivity
          stats := reused.session.stats.plus new.stats } ∧
        (old.lastActivity = new.lastActivity ∨
          old.lastActivity = reused.session.lastActivity ∧ new.lastActivity = created) := by
  intro before reused fresh hphase hawaits later old new
  have hsound : before.session.Sound before.sources :=
    sound_run (.of_idle (Or.inl rfl) (Nat.zero_le _)) done
  have hclient : (Session.new id peer transport headerLimit chunkSize now).SameClient
      reused.session :=
    (sameClient_run ⟨_, sources⟩ done).trans (before.sameClient_step event)
  -- The times of the two sessions are the same as soon as bytes were moved.
  let apart (newer older : Nat) : Prop :=
    older = newer ∨ older = reused.session.lastActivity ∧ newer = created
  have hsame : SamePresent id reused.session.stats apart fresh reused :=
    ⟨(startsOver_step hsound hphase hawaits).samePresent rfl hclient number created
      (Or.inr ⟨rfl, rfl⟩), rfl⟩
  obtain ⟨happears, ⟨last, hlast, hsession⟩, hsources⟩ := hsame.run (fun _ => Or.inl rfl) later
  have hold : old.lastActivity = last := congrArg Session.lastActivity hsession
  refine ⟨happears, hsources, ?_, hold ▸ hlast⟩
  rw [hold]
  exact hsession

section SecondFile

/-- A connection on which two files are asked for. -/
def keptConnection : Transport where
  arrivals := [
    .data (.ofString "GET /a HTTP/1.1\x0d\n\x0d\n"),
    .data (.ofString "GET /b HTTP/1.1\x0d\n\x0d\n")]

/-- A root with two files. -/
def smallRoot : FileSystem where
  entries := [([[119]], .directory), ([[119], [97]], .file 0), ([[119], [98]], .file 1)]
  contents := [#[104, 105], #[111, 107]]

/-- What happens until the first file is sent, but for its end. -/
def untilFirstFile : List Event :=
  [.receive 1 { staticRoot := some (.ofString "/w") } smallRoot, .send 2 smallRoot]

/-- After the first file the session behaves like a new one, also for the second file. -/
theorem reused_eq_new_secondFile :
    let before := (Exchange.mk (.new 1 (.v4 .loopback 5000) keptConnection 4096 16384 0)
      (.ofSizes [] 640 480)).run untilFirstFile
    let reused := before.step (.send 3 smallRoot)
    let fresh : Exchange :=
      ⟨.new 2 (.v4 .loopback 5000) reused.session.transport 4096 16384 4, reused.sources⟩
    before.session.phase ≠ .awaitingHeaders ∧ reused.session.phase = .awaitingHeaders ∧
      reused.session.stats.requestsServed = 1 ∧
      ∀ later, let old := (reused.run later).session
        let new := (fresh.run later).session
        reused.appearances later = fresh.appearances later ∧
        (reused.run later).sources = (fresh.run later).sources ∧
        old = { new with
          id := 1
          lastActivity := old.lastActivity
          stats := reused.session.stats.plus new.stats } ∧
        (old.lastActivity = new.lastActivity ∨
          old.lastActivity = reused.session.lastActivity ∧ new.lastActivity = 4) := by
  refine ⟨by decide +kernel, by decide +kernel, by decide +kernel, ?_⟩
  exact reused_eq_new 1 (.v4 .loopback 5000) keptConnection 4096 16384 0 (.ofSizes [] 640 480)
    untilFirstFile (.send 3 smallRoot) 2 4 (by decide +kernel) (by decide +kernel)

end SecondFile

end Exchange

end MotionJpeg
