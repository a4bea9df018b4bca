import MotionJpeg.Proofs.Answer.Outcome
import MotionJpeg.Proofs.Session.Exchange

/-!
# Answers are given byte for byte

Whatever the connection takes and whenever payloads are pushed, a client that asked for anything
but a stream is sent the bytes of its answer in their order, each of them once.

* `Exchange.Event.Keeps`: the file that is being sent does not change.
* `Exchange.Gives` is the invariant of a run, `Exchange.Gives.run` shows that it holds.
* `Exchange.oneShot_exact`: what was sent at any time, and how the session may end.
-/

namespace MotionJpeg

/-- The stores and the files supply the body of an answer that was begun for a route. -/
theorem OneShot.isSupplied {sizes : List (Nat × Nat)} {width height : Nat} {earlier : List Push}
    {files later : FileSystem} {route : Route} {answer : OneShot}
    (hanswer : route.oneShot? files ((Registry.ofSizes sizes width height).pushedAll earlier) =
      some answer)
    (hfile : ∀ number, answer.body = .file number → later.content number = files.content number)
    (pushes : List Push) :
    answer.body.IsSupplied later
      ((Registry.ofSizes sizes width height).pushedAll (earlier ++ pushes))
      (answer.body.bytes files sizes (earlier ++ pushes))
      (answer.body.IsMissing sizes (earlier ++ pushes)) := by
  have hcanned : ¬ False := not_false
  cases route with
  | badRequest => cases hanswer; exact ⟨rfl, hcanned⟩
  | authRequired => cases hanswer; exact ⟨rfl, hcanned⟩
  | notFound => cases hanswer; exact ⟨rfl, hcanned⟩
  | streamInfo => cases hanswer; exact ⟨rfl, hcanned⟩
  | stream source => cases hanswer
  | still source =>
    obtain ⟨store, hstore, rfl⟩ := Option.map_eq_some_iff.mp hanswer
    obtain ⟨capacity, limit, hsize, store', hstore', hrecords, -⟩ :=
      Registry.exists_records_of_get? hstore
    obtain rfl : store = store' := Option.some.inj (hstore.symm.trans hstore')
    obtain ⟨next, hnext, hnextRecords, hcapacity, -⟩ :=
      (Registry.records_ofSizes width height hsize).pushedAll (earlier ++ pushes)
    rw [List.nil_append] at hnextRecords
    -- The sequence was bound to the newest frame or, if there was none, to the first one to come.
    refine ⟨next, _, hnext, hnextRecords, ?_, ?_, ?_⟩
    · intro hne
      have hpos := List.length_pos_iff.mpr hne
      rw [hrecords.newest?_eq]
      rw [acceptedBy_append, List.length_append] at hpos ⊢
      split
      · exact hpos
      next hsome =>
        have hpos' := List.length_pos_iff.mpr hsome
        rw [Option.getD_some]
        omega
    · rw [Body.bytes, hsize]
    · rw [Body.IsMissing, hcapacity]
      constructor
      · rintro ⟨_, _, hsize', hmissing⟩
        rw [hsize] at hsize'
        cases hsize'
        exact hmissing
      · exact fun hmissing => ⟨capacity, limit, hsize, hmissing⟩
  | staticFile path length mediaType =>
    rw [Route.oneShot?] at hanswer
    split at hanswer
    next number hopen =>
      cases hanswer
      exact ⟨by rw [hfile number rfl, Body.bytes], hcanned⟩
    next => cases hanswer

namespace Exchange

/-- The file of a body still has the contents that it had in `files`. -/
def Event.Keeps (files : FileSystem) (body : Body) : Event → Prop
  | send _ later => ∀ number, body = .file number → later.content number = files.content number
  | push _ | network _ | receive .. => True

/-- The session gives an answer, or has given it, or has failed to. -/
inductive Gives (origin : Session) (answer : OneShot) (bytes : Bytes) (session : Session) :
    Prop where
  | answers (bodySent : Nat) (h : Session.Answers origin answer bytes bodySent session)
  | rests (hphase : session.phase = .closed ∨ session.phase = .awaitingHeaders)
    (hsent : Session.HasSent origin answer.head bytes session)

namespace Gives

variable {origin session : Session} {answer : OneShot} {bytes : Bytes}

/-- A beginning of the answer was sent. -/
theorem hasSent (h : Gives origin answer bytes session) :
    Session.HasSent origin answer.head bytes session := by
  cases h with
  | answers bodySent h => exact h.hasSent
  | rests hphase hsent => exact hsent

/-- The invariant is kept when more of the body becomes known. -/
theorem mono (h : Gives origin answer bytes session) {bytes' : Bytes} (hbytes : bytes <+: bytes') :
    Gives origin answer bytes' session := by
  cases h with
  | answers bodySent h => exact .answers bodySent (h.mono hbytes)
  | rests hphase hsent =>
    obtain ⟨written, hwritten, hbegins⟩ := hsent
    exact .rests hphase
      ⟨written, hwritten, hbegins.trans ((List.prefix_append_right_inj _).mpr hbytes)⟩

/-- What the network does to the connection does not matter, as long as the peer keeps what it was
given. -/
theorem withTransport (h : Gives origin answer bytes session) {transport : Transport}
    (hsent : transport.sent = session.transport.sent) :
    Gives origin answer bytes { session with transport } := by
  cases h with
  | answers bodySent h => exact .answers bodySent (h.withTransport hsent)
  | rests hphase hwritten =>
    obtain ⟨written, hwritten, hbegins⟩ := hwritten
    exact .rests hphase ⟨written, hsent.trans hwritten, hbegins⟩

/-- Every outcome of an attempt keeps the invariant. -/
theorem of_outcome {fails missing : Prop} {flow : Flow}
    (h : Session.Outcome origin answer bytes fails missing flow session) :
    Gives origin answer bytes session := by
  cases h with
  | goesOn bodySent hstands hthere h => exact .answers bodySent h
  | completes hstands hthere hkind hphase hsent =>
    exact .rests (Or.inl hphase) ⟨_, hsent, List.prefix_rfl⟩
  | awaits hstands hthere hkind hphase hsent =>
    exact .rests (Or.inr hphase) ⟨_, hsent, List.prefix_rfl⟩
  | isOver hfails hphase hsent => exact .rests (Or.inl hphase) hsent
  | unavailable hstands hmissing hkind hphase bodySent hsent =>
    exact .rests (Or.inl hphase)
      ⟨_, hsent, (List.prefix_append_right_inj _).mpr (List.take_prefix _ _)⟩

/-- A session that has given its answer sends nothing more. -/
theorem send_of_rests (hphase : session.phase = .closed ∨ session.phase = .awaitingHeaders)
    (hsent : Session.HasSent origin answer.head bytes session) (now : Nat) (files : FileSystem)
    (sources : Registry) : Gives origin answer bytes (session.send now files sources).2 := by
  have hflushed : Gives origin answer bytes
      { session with transport := session.transport.flush.2 } :=
    withTransport (.rests hphase hsent) session.transport.sent_flush
  by_cases hfails : Transport.FailsHard session.transport.flush.1
  · rw [session.send_eq_fail now files sources hfails]
    exact .rests (Or.inl rfl) hflushed.hasSent
  · rw [session.send_eq_sendPhase now files sources hfails]
    rcases hphase with hclosed | hawaits
    · rwa [Session.sendPhase_of_closed]
      exact hclosed
    · rwa [Session.sendPhase_of_awaitingHeaders]
      exact hawaits

end Gives

section Run

variable {sizes : List (Nat × Nat)} {route : Route} {answer : OneShot} (width height : Nat)
  (earlier : List Push) (session : Session) (files : FileSystem)
  (hanswer : route.oneShot? files ((Registry.ofSizes sizes width height).pushedAll earlier) =
    some answer)

include hanswer

/-- Every event keeps the invariant, but for those that may begin another answer. -/
theorem Gives.step {before : Exchange} {pushed : List Push}
    (hsources : before.sources =
      (Registry.ofSizes sizes width height).pushedAll (earlier ++ pushed))
    (h : Gives session answer (answer.body.bytes files sizes (earlier ++ pushed))
      before.session)
    (event : Event) (hquiet : event.isReceive = false) (hkeeps : event.Keeps files answer.body) :
    Gives session answer
      (answer.body.bytes files sizes (earlier ++ pushed ++ event.push?.toList))
      (before.step event).session := by
  cases event with
  | push offered => exact h.mono (answer.body.bytes_prefix_append files sizes _ _)
  | network future =>
    rw [Event.push?, Option.toList_none, List.append_nil]
    exact h.withTransport rfl
  | receive now router later => cases hquiet
  | send now later =>
    rw [Event.push?, Option.toList_none, List.append_nil]
    cases h with
    | answers bodySent h =>
      have hsupplied := OneShot.isSupplied hanswer hkeeps pushed
      rw [← hsources] at hsupplied
      exact .of_outcome (h.send now later before.sources hsupplied)
    | rests hphase hsent => exact .send_of_rests hphase hsent now later before.sources

/-- The invariant holds along every run. -/
theorem Gives.run (events : List Event)
    (hquiet : ∀ event ∈ events, event.isReceive = false ∧ event.Keeps files answer.body) :
    let sources := (Registry.ofSizes sizes width height).pushedAll earlier
    Gives session answer (answer.body.bytes files sizes (earlier ++ pushes events))
      ((Exchange.begin session files sources route).run events).session := by
  intro sources
  induction events using List.reverseRecOn with
  | nil => exact .answers 0 (.begin session hanswer _)
  | append_singleton events event ih =>
    rw [List.forall_mem_append, List.forall_mem_singleton] at hquiet
    have hsources : ((Exchange.begin session files sources route).run events).sources =
        (Registry.ofSizes sizes width height).pushedAll (earlier ++ pushes events) := by
      rw [sources_run, Registry.pushedAll_append]
      rfl
    rw [run_concat, pushes_concat, ← List.append_assoc]
    exact Gives.step width height earlier session files hanswer hsources (ih hquiet.1) event
      hquiet.2.1 hquiet.2.2

/-- Along every run without another request, a client that asked for anything but a stream has been
sent a beginning of its answer. An attempt to send ends with the answer complete, or with the next
request awaited, only when all of it was sent. It ends with a failure exactly if the connection
fails for good, and with the frame unavailable exactly if the head was sent and the frame is not
stored yet or was overwritten. -/
theorem oneShot_exact (done rest : List Event)
    (hquiet : ∀ event ∈ done, event.isReceive = false ∧ event.Keeps files answer.body) :
    let sources := (Registry.ofSizes sizes width height).pushedAll earlier
    let before := (Exchange.begin session files sources route).run done
    let full := answer.bytes files sizes (earlier ++ pushes (done ++ rest))
    (∃ written, before.session.transport.sent = session.transport.sent ++ written ∧
      written <+: full) ∧
    ∀ kind, before.session.phase = .draining kind → ∀ now later,
      (Event.send now later).Keeps files answer.body →
      let flow := (before.session.send now later before.sources).1
      let after := (before.session.send now later before.sources).2
      let fails := before.session.ConnectionFails now later before.sources kind
      (flow = .close .responseComplete → answer.kind ≠ .staticFile ∧
        after.transport.sent = session.transport.sent ++ full) ∧
      (after.phase = .awaitingHeaders → answer.kind = .staticFile ∧
        after.transport.sent = session.transport.sent ++ full) ∧
      (flow = .close .transportFailed ↔ fails) ∧
      (flow = .close .frameUnavailable ↔ answer.kind = .still ∧ ¬ fails ∧
        session.transport.sent ++ answer.head <+: after.transport.sent ∧
        answer.body.IsMissing sizes (earlier ++ pushes done)) ∧
      (flow ≠ .keep → after.phase = .closed) := by
  intro sources before full
  have hgives : Gives session answer (answer.body.bytes files sizes (earlier ++ pushes done))
      before.session :=
    Gives.run width height earlier session files hanswer done hquiet
  have hsources : before.sources =
      (Registry.ofSizes sizes width height).pushedAll (earlier ++ pushes done) := by
    rw [sources_run, Registry.pushedAll_append]
    rfl
  have hfull : full = answer.head ++
      answer.body.bytes files sizes (earlier ++ pushes done ++ pushes rest) := by
    rw [List.append_assoc, ← pushes_append]
    rfl
  refine ⟨?_, fun kind hphase now later hkeeps => ?_⟩
  · obtain ⟨written, hwritten, hbegins⟩ :=
      (hgives.mono (answer.body.bytes_prefix_append files sizes _ (pushes rest))).hasSent
    exact ⟨written, hwritten, hfull ▸ hbegins⟩
  · intro flow after fails
    -- Once the frame is stored, what is pushed later does not change the answer.
    have hsettled (h : ¬ answer.body.IsMissing sizes (earlier ++ pushes done)) :
        full = answer.head ++ answer.body.bytes files sizes (earlier ++ pushes done) := by
      rw [hfull, answer.body.bytes_append_of_not_isMissing files sizes _ _ h]
    have houtcome : Session.Outcome session answer
        (answer.body.bytes files sizes (earlier ++ pushes done)) fails
        (answer.body.IsMissing sizes (earlier ++ pushes done)) flow after := by
      cases hgives with
      | rests hrests hsent =>
        -- A session that is draining has not given its answer yet.
        rw [hphase] at hrests
        rcases hrests with hrests | hrests <;> cases hrests
      | answers bodySent h =>
        have hkind : answer.kind = kind := by
          have heq := h.phase_eq.symm.trans hphase
          cases heq
          rfl
        have hsupplied := OneShot.isSupplied hanswer hkeeps (pushes done)
        have hsend := h.send now later before.sources (hsources ▸ hsupplied)
        rwa [hkind] at hsend
    refine ⟨fun hflow => ?_, fun hawaits => ?_, houtcome.transportFailed_iff,
      houtcome.frameUnavailable_iff, houtcome.phase_eq_closed⟩
    · obtain ⟨hthere, hkind, hsent⟩ := houtcome.of_responseComplete hflow
      exact ⟨hkind, by rw [hsettled hthere, hsent]⟩
    · obtain ⟨hthere, hkind, hsent⟩ := houtcome.of_awaitingHeaders hawaits
      exact ⟨hkind, by rw [hsettled hthere, hsent]⟩

end Run

section EarlyViewer

/-- A viewer that takes a few bytes of the head, then nothing for a while. -/
def earlyViewer : Session :=
  .new 1 (.v4 .loopback 5000) { outcomes := [.upTo 10, .failure .wouldBlock] } 4096 16384 0

/-- The answer for a viewer that asks for a still of a source before its first frame. -/
def earlyAnswer : OneShot := ⟨.still, Http.Reply.stillHeader, .frame 0 0, rfl⟩

/-- The early viewer asks for the still while its source has no frame. -/
def earlyStart : Exchange :=
  .begin earlyViewer {} ((Registry.ofSizes [(1, 8)] 640 480).pushedAll []) (.still 0)

/-- The first frame is stored while the head is being sent. -/
def earlyEvents : List Event := [.send 1 {}, .push ⟨0, [255, 216]⟩, .send 2 {}]

/-- The early viewer gets the frame that is stored first, not the one after it. -/
theorem oneShot_exact_earlyViewer :
    Route.oneShot? {} ((Registry.ofSizes [(1, 8)] 640 480).pushedAll []) (.still 0) =
      some earlyAnswer ∧
    (∀ event ∈ earlyEvents, event.isReceive = false ∧ event.Keeps {} earlyAnswer.body) ∧
    let before := earlyStart.run earlyEvents
    let full := earlyAnswer.bytes {} [(1, 8)]
      ([] ++ pushes (earlyEvents ++ [.push ⟨0, [255, 217]⟩]))
    before.session.phase = .draining .still ∧ full = Http.Reply.stillHeader ++ [255, 216] ∧
    (∃ written, before.session.transport.sent = earlyViewer.transport.sent ++ written ∧
      written <+: full) ∧
    ∀ kind, before.session.phase = .draining kind → ∀ now later,
      (Event.send now later).Keeps {} earlyAnswer.body →
      let flow := (before.session.send now later before.sources).1
      let after := (before.session.send now later before.sources).2
      let fails := before.session.ConnectionFails now later before.sources kind
      (flow = .close .responseComplete → earlyAnswer.kind ≠ .staticFile ∧
        after.transport.sent = earlyViewer.transport.sent ++ full) ∧
      (after.phase = .awaitingHeaders → earlyAnswer.kind = .staticFile ∧
        after.transport.sent = earlyViewer.transport.sent ++ full) ∧
      (flow = .close .transportFailed ↔ fails) ∧
      (flow = .close .frameUnavailable ↔ earlyAnswer.kind = .still ∧ ¬ fails ∧
        earlyViewer.transport.sent ++ earlyAnswer.head <+: after.transport.sent ∧
        earlyAnswer.body.IsMissing [(1, 8)] ([] ++ pushes earlyEvents)) ∧
      (flow ≠ .keep → after.phase = .closed) := by
  have hquiet : ∀ event ∈ earlyEvents,
      event.isReceive = false ∧ event.Keeps {} earlyAnswer.body := by
    simp [earlyEvents, earlyAnswer, Event.isReceive, Event.Keeps]
  refine ⟨rfl, hquiet, by decide +kernel, by decide +kernel, ?_⟩
  rw [earlyStart]
  exact oneShot_exact 640 480 [] earlyViewer {} rfl earlyEvents [.push ⟨0, [255, 217]⟩] hquiet

end EarlyViewer

end Exchange

end MotionJpeg
