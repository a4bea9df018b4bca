import MotionJpeg.Session.Receive
import MotionJpeg.Session.Send

/-!
# Sessions do not look at their past

What a session does depends neither on its number, nor on what was counted so far, nor on the time
at which bytes were last moved. Two sessions that differ in nothing else do the same from there on,
and count the same.

* `Session.SamePresent` relates such sessions, and `Session.SameOutcome` what comes of an event for
  them.
* `Session.SamePresent.receive` and `Session.SamePresent.send`: the events of a session keep the
  relation.
-/

namespace MotionJpeg

namespace SessionStats

/-- What was counted earlier, and later on top of it. -/
def plus (earlier later : SessionStats) : SessionStats where
  bytesReceived := earlier.bytesReceived + later.bytesReceived
  bytesSent := earlier.bytesSent + later.bytesSent
  framesSent := earlier.framesSent + later.framesSent
  requestsServed := earlier.requestsServed + later.requestsServed

variable (earlier later : SessionStats) (count : Nat)

/-- Nothing was counted earlier. -/
theorem empty_plus : ({} : SessionStats).plus later = later := by simp [plus]

/-- To count received bytes further is to count them on top. -/
theorem plus_received : { earlier.plus later with
      bytesReceived := (earlier.plus later).bytesReceived + count } =
    earlier.plus { later with bytesReceived := later.bytesReceived + count } := by
  simp [plus, Nat.add_assoc]

/-- To count sent bytes further is to count them on top. -/
theorem plus_sent : { earlier.plus later with
      bytesSent := (earlier.plus later).bytesSent + count } =
    earlier.plus { later with bytesSent := later.bytesSent + count } := by
  simp [plus, Nat.add_assoc]

/-- To count frames further is to count them on top. -/
theorem plus_frames : { earlier.plus later with
      framesSent := (earlier.plus later).framesSent + count } =
    earlier.plus { later with framesSent := later.framesSent + count } := by
  simp [plus, Nat.add_assoc]

end SessionStats

namespace Session

section Definitions

variable (number : Nat) (earlier : SessionStats) (apart : Nat → Nat → Prop)

/-- The other session has this number and has counted `earlier` more than this one. Bytes may have
been moved at times that are `apart`. In everything else the two are the same. -/
def SamePresent (session other : Session) : Prop :=
  ∃ last, apart session.lastActivity last ∧ other =
    { session with id := number, lastActivity := last, stats := earlier.plus session.stats }

/-- The same comes of an event for both sessions. -/
def SameOutcome {Result : Type} (outcome other : Result × Session) : Prop :=
  outcome.1 = other.1 ∧ SamePresent number earlier apart outcome.2 other.2

end Definitions

/-- What comes of an event is a result, and a session for either past. -/
theorem SameOutcome.exists_eq {number : Nat} {earlier : SessionStats} {apart : Nat → Nat → Prop}
    {Result : Type} {outcome other : Result × Session}
    (h : SameOutcome number earlier apart outcome other) : ∃ result before after,
      outcome = (result, before) ∧ other = (result, after) ∧
        SamePresent number earlier apart before after :=
  ⟨outcome.1, outcome.2, other.2, rfl, Prod.ext h.1.symm rfl, h.2⟩

namespace SamePresent

variable {number : Nat} {earlier : SessionStats} {apart : Nat → Nat → Prop}
  {session other : Session}

/-- What is seen of a session without its past is the same for both. -/
theorem view_eq {View : Type} (h : SamePresent number earlier apart session other)
    (view : Session → View) (hview : ∀ id lastActivity stats,
      view { session with id, lastActivity, stats } = view session) :
    view other = view session := by
  obtain ⟨last, -, rfl⟩ := h
  exact hview _ _ _

/-- A change that leaves the past alone is the same change for both. -/
theorem map (h : SamePresent number earlier apart session other) (change : Session → Session)
    (hchange : ∀ id lastActivity stats, change { session with id, lastActivity, stats } =
      { change session with id, lastActivity, stats })
    (hlast : (change session).lastActivity = session.lastActivity)
    (hstats : (change session).stats = session.stats) :
    SamePresent number earlier apart (change session) (change other) := by
  obtain ⟨last, hapart, rfl⟩ := h
  exact ⟨last, hlast ▸ hapart, by rw [hchange, hstats]⟩

/-- A session that is over has counted its answer. -/
theorem finish (h : SamePresent number earlier apart session other) :
    SameOutcome number earlier apart session.finish other.finish := by
  obtain ⟨last, hlast, rfl⟩ := h
  exact ⟨rfl, last, hlast, rfl⟩

/-- A session that has failed counts nothing. -/
theorem fail (h : SamePresent number earlier apart session other) :
    SameOutcome number earlier apart session.fail other.fail := by
  obtain ⟨last, hlast, rfl⟩ := h
  exact ⟨rfl, last, hlast, rfl⟩

section Send

variable {now : Nat} (hnow : apart now now) (h : SamePresent number earlier apart session other)

include hnow h

/-- The connection is offered the same bytes, and what it takes is counted. -/
theorem offer (bytes : Slice) :
    SameOutcome number earlier apart (session.offer now bytes) (other.offer now bytes) := by
  obtain ⟨last, hlast, rfl⟩ := h
  unfold Session.offer
  dsimp only
  obtain ⟨result, transport⟩ := session.transport.write bytes
  cases result with
  | error error => exact ⟨rfl, last, hlast, rfl⟩
  | ok count =>
    by_cases hcount : count = 0
    · simp only [hcount, if_true]
      exact ⟨rfl, last, hlast, rfl⟩
    · simp only [hcount, if_false]
      exact ⟨rfl, now, hnow, by rw [SessionStats.plus_sent]⟩

/-- The cursor of a stream moves in the same way. -/
theorem sendFrames (sources : Registry) : SameOutcome number earlier apart
    (session.sendFrames now sources) (other.sendFrames now sources) := by
  unfold Session.sendFrames
  rw [h.view_eq Session.cursor fun _ _ _ => rfl]
  cases session.cursor with
  | none => exact h.finish
  | some cursor =>
    dsimp only
    cases sources.get? cursor.source with
    | none => exact h.finish
    | some store =>
      dsimp only
      cases (cursor.caughtUp store).unsent? store with
      | none =>
        exact ⟨rfl, h.map (fun session => { session with cursor := _ }) (fun _ _ _ => rfl) rfl rfl⟩
      | some bytes =>
        -- At the end of the newest frame the connection is not asked.
        have hattempt : SameOutcome number earlier apart
            (if bytes.isEmpty then (some 0, session) else session.offer now bytes)
            (if bytes.isEmpty then (some 0, other) else other.offer now bytes) := by
          split
          · exact ⟨rfl, h⟩
          · exact h.offer hnow bytes
        dsimp only
        generalize (if bytes.isEmpty then (some 0, session) else session.offer now bytes) = attempt
          at hattempt ⊢
        generalize (if bytes.isEmpty then (some 0, other) else other.offer now bytes) = attempt'
          at hattempt ⊢
        obtain ⟨result, before, after, rfl, rfl, hsame⟩ := hattempt.exists_eq
        cases result with
        | none => exact hsame.fail
        | some count =>
          obtain ⟨last, hlast, rfl⟩ := hsame
          refine ⟨rfl, last, hlast, ?_⟩
          dsimp only
          rw [SessionStats.plus_frames]

/-- A still is sent or missed in the same way. -/
theorem sendStill (sources : Registry) : SameOutcome number earlier apart
    (session.sendStill now sources) (other.sendStill now sources) := by
  unfold Session.sendStill
  rw [h.view_eq Session.cursor fun _ _ _ => rfl]
  dsimp only
  split
  · obtain ⟨last, hlast, rfl⟩ := h
    exact ⟨rfl, last, hlast, rfl⟩
  · next cursor bytes _ =>
    split
    · exact h.finish
    · obtain ⟨result, before, after, hbefore, hafter, hsame⟩ := (h.offer hnow bytes).exists_eq
      rw [hbefore, hafter]
      cases result with
      | none => exact hsame.fail
      | some count =>
        obtain ⟨last, hlast, rfl⟩ := hsame
        dsimp only
        split
        · exact ⟨rfl, last, hlast, rfl⟩
        · refine finish ⟨last, hlast, ?_⟩
          rw [SessionStats.plus_frames]

/-- A file is read from the same place. -/
theorem sendFile (files : FileSystem) : SameOutcome number earlier apart
    (session.sendFile now files) (other.sendFile now files) := by
  unfold Session.sendFile
  rw [h.view_eq Session.file fun _ _ _ => rfl, h.view_eq Session.chunkSize fun _ _ _ => rfl]
  cases session.file with
  | none => exact h.finish
  | some file =>
    dsimp only
    cases files.readSome session.chunkSize file with
    | error fault => exact h.fail
    | ok bytes =>
      dsimp only
      split
      · obtain ⟨last, hlast, rfl⟩ := h
        exact ⟨rfl, last, hlast, rfl⟩
      · obtain ⟨result, before, after, hbefore, hafter, hsame⟩ := (h.offer hnow bytes).exists_eq
        rw [hbefore, hafter]
        cases result with
        | none => exact hsame.fail
        | some count =>
          refine ⟨rfl, hsame.map (fun session => { session with file := _ }) ?_ rfl rfl⟩
          exact fun _ _ _ => rfl

/-- What follows the head of an answer is sent in the same way. -/
theorem sendBody (files : FileSystem) (sources : Registry) (kind : RouteKind) :
    SameOutcome number earlier apart (session.sendBody now files sources kind)
      (other.sendBody now files sources kind) := by
  cases kind with
  | badRequest | authRequired | notFound | streamInfo => exact h.finish
  | still => exact h.sendStill hnow sources
  | staticFile => exact h.sendFile hnow files
  | stream =>
    have hstreams := h.map (fun session => { session with phase := .streaming })
      (fun _ _ _ => rfl) rfl rfl
    exact hstreams.sendFrames hnow sources

/-- An answer is sent in the same way. -/
theorem sendAnswer (files : FileSystem) (sources : Registry) (kind : RouteKind) :
    SameOutcome number earlier apart (session.sendAnswer now files sources kind)
      (other.sendAnswer now files sources kind) := by
  unfold Session.sendAnswer
  rw [h.view_eq Session.response fun _ _ _ => rfl, h.view_eq Session.responseSent fun _ _ _ => rfl]
  split
  · obtain ⟨result, before, after, hbefore, hafter, hsame⟩ :=
      (h.offer hnow (session.response.drop session.responseSent)).exists_eq
    rw [hbefore, hafter]
    cases result with
    | none => exact hsame.fail
    | some count =>
      have hmore := hsame.map
        (fun session => { session with responseSent := session.responseSent + count })
        (fun _ _ _ => rfl) rfl rfl
      obtain ⟨last, -, rfl⟩ := hsame
      dsimp only
      split
      · exact ⟨rfl, hmore⟩
      · exact hmore.sendBody hnow files sources kind
  · exact h.sendBody hnow files sources kind

/-- What the phase calls for is sent in the same way. -/
theorem sendPhase (files : FileSystem) (sources : Registry) :
    SameOutcome number earlier apart (session.sendPhase now files sources)
      (other.sendPhase now files sources) := by
  unfold Session.sendPhase
  rw [h.view_eq Session.phase fun _ _ _ => rfl]
  split
  · exact ⟨rfl, h⟩
  · exact ⟨rfl, h⟩
  · exact h.sendFrames hnow sources
  · exact h.sendAnswer hnow files sources _

/-- A writable session does the same whatever its past. -/
theorem send (files : FileSystem) (sources : Registry) :
    SameOutcome number earlier apart (session.send now files sources)
      (other.send now files sources) := by
  unfold Session.send
  rw [h.view_eq Session.transport fun _ _ _ => rfl]
  have hflushed := h.map (fun other => { other with transport := session.transport.flush.2 })
    (fun _ _ _ => rfl) rfl rfl
  dsimp only
  split
  · split
    · exact hflushed.sendPhase hnow files sources
    · exact hflushed.fail
  · exact hflushed.sendPhase hnow files sources

end Send

section Receive

/-- The answer for a route is the same. -/
theorem respond (h : SamePresent number earlier apart session other) (files : FileSystem)
    (sources : Registry) (route : Route) : SamePresent number earlier apart
      (session.respond files sources route) (other.respond files sources route) := by
  refine h.map (fun session => session.respond files sources route) (fun _ _ _ => ?_) ?_ ?_
  all_goals
    unfold Session.respond
    cases route with
    | badRequest | authRequired | notFound | streamInfo => rfl
    | stream source | still source => dsimp only; split <;> rfl
    | staticFile path length mediaType => dsimp only; split <;> rfl

/-- A request is gathered and routed in the same way. -/
theorem gather (h : SamePresent number earlier apart session other) (router : Router)
    (files : FileSystem) (sources : Registry) (bytes : Bytes) : SamePresent number earlier apart
      (session.gather router files sources bytes) (other.gather router files sources bytes) := by
  have hcleared := h.map (fun session => { session with request := [] }) (fun _ _ _ => rfl) rfl rfl
  unfold Session.gather
  obtain ⟨last, hlast, rfl⟩ := h
  dsimp only
  split
  · exact hcleared.respond files sources _
  · split
    · exact hcleared.respond files sources _
    · exact ⟨last, hlast, rfl⟩

/-- A readable session does the same whatever its past. -/
theorem receive {now : Nat} (hnow : apart now now)
    (h : SamePresent number earlier apart session other) (router : Router) (files : FileSystem)
    (sources : Registry) : SameOutcome number earlier apart
      (session.receive now router files sources) (other.receive now router files sources) := by
  unfold Session.receive
  rw [h.view_eq Session.wantsRead fun _ _ _ => rfl, h.view_eq Session.transport fun _ _ _ => rfl,
    h.view_eq Session.readSize fun _ _ _ => rfl]
  split
  · exact ⟨rfl, h⟩
  · obtain ⟨result, transport⟩ := session.transport.read session.readSize
    have hread := h.map (fun session => { session with transport }) (fun _ _ _ => rfl) rfl rfl
    cases result with
    | error error =>
      dsimp only
      split
      · exact ⟨rfl, hread⟩
      · exact hread.fail
    | ok bytes =>
      dsimp only
      split
      · exact ⟨rfl, hread⟩
      · refine ⟨rfl, gather ?_ router files sources bytes⟩
        obtain ⟨last, -, rfl⟩ := h
        exact ⟨now, hnow, by rw [SessionStats.plus_received]⟩

end Receive

end SamePresent

end Session

end MotionJpeg
