import MotionJpeg.Proofs.Stream.Delivery

/-!
# Decomposition of a stream

A client that asked for a stream has been sent the head of the answer, or its beginning, and then
segments of frames in the order of their sequences. Which frames these are depends on the times of
the pushes and of the attempts to send, and on how much of each the connection took.

* `Exchange.Decomposes` says what the segments of a run are.
* `Exchange.exists_decomposition`: every run has such segments.
* `Exchange.stream_decomposition`: they are all that was sent, and the complete ones are counted.
-/

namespace MotionJpeg.Exchange

/-- The segments are those of a stream from the beginning of a run on. -/
structure Decomposes (start : Exchange) (source capacity : Nat) (payloads : List Bytes)
    (events : List Event) (segments : List Segment) : Prop where
  /-- The first frame is the newest at the start, or the first one to come. -/
  first : segments.head?.map Segment.sequence = some ((start.newest? source).getD 0)
  /-- Every segment is sent from the first byte of its part on. -/
  sent_prefix : ∀ segment ∈ segments, segment.sent <+: wholePart payloads segment.sequence
  /-- One segment follows another as cursors leave frames. -/
  chain : segments.IsChain fun old new =>
    Leaves start source capacity payloads events old new.sequence

variable {sizes : List (Nat × Nat)} {source capacity limit : Nat}

/-- Along every run a stream consists of its head, or a beginning of it, and then of segments. -/
theorem exists_decomposition (hsize : sizes[source]? = some (capacity, limit))
    (width height : Nat) (earlier : List Push) (session : Session) (files : FileSystem)
    (events : List Event) :
    let sources := (Registry.ofSizes sizes width height).pushedAll earlier
    let start := Exchange.begin session files sources (.stream source)
    let payloads := acceptedBy source limit (earlier ++ pushes events)
    ∃ headSent segments, Decomposes start source (max capacity 1) payloads events segments ∧
      (headSent < Http.Reply.streamHeader.length → segments.flatMap Segment.sent = [] ∧
        segments.countP (·.IsComplete payloads) = 0) ∧
      (start.run events).session.transport.sent = session.transport.sent ++
        (Http.Reply.streamHeader.take headSent ++ segments.flatMap Segment.sent) ∧
      (start.run events).session.stats.framesSent = session.stats.framesSent +
        segments.countP (·.IsComplete payloads) := by
  intro sources start payloads
  obtain ⟨store, hstore, hrecords, hcapacity, hlimit⟩ :=
    (Registry.records_ofSizes width height hsize).pushedAll earlier
  rw [List.nil_append] at hrecords
  obtain ⟨cursor, body, frames, hrun⟩ :=
    (Streams.begin session files hstore hrecords).run events
  rw [hcapacity, hlimit, ← acceptedBy_append] at hrun
  -- The invariant knows the earlier segments. The one where the cursor is comes last.
  obtain ⟨segments, htranscript, hfirst, rfl, rfl⟩ := hrun.streamed
  have hnewest : start.newest? source = store.newest? :=
    congrArg (Option.bind · Store.newest?) hstore
  refine ⟨(start.run events).session.responseSent, segmentsTo payloads segments cursor,
    ⟨?_, fun segment => ?_, ?_⟩, ?_, ?_, ?_⟩
  · rw [hnewest]
    exact hfirst
  · exact htranscript.sent_prefix_of_mem
  · exact htranscript.isChain
  · exact fun hshort => (hrun.body_eq_nil hshort).2
  · rw [← List.append_assoc]
    exact hrun.sent_eq
  · exact hrun.framesSent_eq

/-- Whatever the network does, and whenever payloads are accepted, a client that asked for a stream
has been sent a beginning of the head, or the head and after it segments of frames in their order,
each from its first byte on. A frame is left before its end only if it was overwritten, and the
frames that were sent to the end are counted. -/
theorem stream_decomposition (hsize : sizes[source]? = some (capacity, limit))
    (width height : Nat) (earlier : List Push) (session : Session) (files : FileSystem)
    (events : List Event) :
    let sources := (Registry.ofSizes sizes width height).pushedAll earlier
    let start := Exchange.begin session files sources (.stream source)
    let final := start.run events
    let payloads := acceptedBy source limit (earlier ++ pushes events)
    ∃ written complete, final.session.transport.sent = session.transport.sent ++ written ∧
      final.session.stats.framesSent = session.stats.framesSent + complete ∧
      (written <+: Http.Reply.streamHeader ∧ complete = 0 ∨
        ∃ segments, written = Http.Reply.streamHeader ++ segments.flatMap Segment.sent ∧
          Decomposes start source (max capacity 1) payloads events segments ∧
          complete = segments.countP (·.IsComplete payloads)) := by
  intro sources start final payloads
  obtain ⟨headSent, segments, hsegments, hshort, hsent, hframes⟩ :=
    exists_decomposition hsize width height earlier session files events
  refine ⟨_, _, hsent, hframes, ?_⟩
  by_cases hhead : headSent < Http.Reply.streamHeader.length
  · -- Not even the head was sent, so nothing of the body was.
    obtain ⟨hbody, hcomplete⟩ := hshort hhead
    rw [hbody, List.append_nil]
    exact Or.inl ⟨List.take_prefix _ _, hcomplete⟩
  · rw [List.take_of_length_le (Nat.not_lt.mp hhead)]
    exact Or.inr ⟨segments, rfl, hsegments, rfl⟩

/-- A viewer that takes the head, two bytes of the first image, and later everything. -/
def slowViewer : Session :=
  .new 1 (.v4 .loopback 5000) { outcomes := [.all, .upTo 30] } 4096 16384 0

/-- The slow viewer asks for the stream of a source that keeps a single frame. -/
def slowStart : Exchange :=
  .begin slowViewer {} ((Registry.ofSizes [(1, 8)] 640 480).pushedAll [⟨0, [255, 216]⟩]) (.stream 0)

/-- The frame of the slow viewer is overwritten between two attempts to send. -/
def slowEvents : List Event := [.send 1 {}, .push ⟨0, [255, 217]⟩, .send 2 {}]

/-- The stream of the slow viewer consists of a part that breaks off and a whole one. -/
theorem stream_decomposition_slowViewer : [(1, 8)][0]? = some (1, 8) ∧
    let payloads := acceptedBy 0 8 ([⟨0, [255, 216]⟩] ++ pushes slowEvents)
    let final := (slowStart.run slowEvents).session
    slowStart.session.phase = .draining .stream ∧ final.phase = .streaming ∧
    final.transport.sent = Http.Reply.streamHeader ++
      ((wholePart payloads 0).take 30 ++ wholePart payloads 1) ∧
    final.stats.framesSent = 1 ∧
    ∃ segments,
      final.transport.sent = Http.Reply.streamHeader ++ segments.flatMap Segment.sent ∧
      Decomposes slowStart 0 (max 1 1) payloads slowEvents segments ∧
      final.stats.framesSent = segments.countP (·.IsComplete payloads) := by
  have hsize : [(1, 8)][0]? = some (1, 8) := rfl
  refine ⟨hsize, ?_⟩
  rw [slowStart]
  obtain ⟨written, complete, hwritten, hframes, hcases⟩ :=
    stream_decomposition hsize 640 480 [⟨0, [255, 216]⟩] slowViewer {} slowEvents
  have hzero : slowViewer.stats.framesSent = 0 := rfl
  rw [hzero, Nat.zero_add] at hframes
  intro payloads final
  have hsent : final.transport.sent = Http.Reply.streamHeader ++
      ((wholePart payloads 0).take 30 ++ wholePart payloads 1) := by decide +kernel
  refine ⟨by decide +kernel, by decide +kernel, hsent, by decide +kernel, ?_⟩
  rcases hcases with ⟨hhead, -⟩ | ⟨segments, rfl, hsegments, hcount⟩
  · -- More than the head was sent.
    have hshort : final.transport.sent.length ≤ Http.Reply.streamHeader.length := by
      rw [hwritten]
      exact hhead.length_le
    rw [hsent] at hshort
    exact absurd hshort (by decide +kernel)
  · refine ⟨segments, hwritten, hsegments, ?_⟩
    rw [← hcount, ← hframes]

end MotionJpeg.Exchange
