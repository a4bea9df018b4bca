import MotionJpeg.Proofs.Stream.Decomposition
import MotionJpeg.Proofs.Stream.Parts

/-!
# Integrity of the parts of a stream

A viewer that cuts a stream at its boundaries gets the images that were pushed, one in each part,
as long as it keeps up. A frame that is overwritten while it is being sent is not finished: the
stream goes on with the newest frame, and the viewer gets both in one part.

* `Exchange.Overruns` says that the frame being sent was overwritten.
* `Exchange.mem_parts_stream`: what the finished parts of a stream are.
* `Exchange.not_mem_parts_slowViewer`: a viewer that falls behind gets a part made of two frames.
-/

namespace MotionJpeg.Exchange

/-- Something of a frame was sent, but not all of it, and the store has overwritten the frame. -/
structure Overruns (exchange : Exchange) (source capacity : Nat) (payloads : List Bytes)
    (segment : Segment) : Prop where
  sent_ne_nil : segment.sent ≠ []
  sent_begins : segment.sent <+: wholePart payloads segment.sequence
  isIncomplete : ¬ segment.IsComplete payloads
  sequence_eq : exchange.session.cursor.map Cursor.sequence = some segment.sequence
  offset_eq : exchange.session.cursor.map Cursor.offset = some segment.sent.length
  isOverwritten : ∃ newest, exchange.newest? source = some newest ∧
    segment.sequence + capacity ≤ newest

/-- In a chain every element but the last goes on to another one. -/
private theorem exists_rel_of_isChain {α : Type} {r : α → α → Prop} {all front : List α} {last : α}
    (hchain : all.IsChain r) (hrow : front ++ [last] <:+: all) : ∀ a ∈ front, ∃ b, r a b := by
  intro a ha
  obtain ⟨before, after, rfl⟩ := List.append_of_mem ha
  -- The element after `a` is the next of the front, or the last one.
  have hpart := hchain.infix hrow
  rw [List.append_assoc, List.cons_append] at hpart
  have htail := (List.isChain_append.mp hpart).2.1
  cases after with
  | nil => exact ⟨last, (List.isChain_cons_cons.mp htail).1⟩
  | cons b after => exact ⟨b, (List.isChain_cons_cons.mp htail).1⟩

/-- Segments of which nothing was sent do not matter. -/
private theorem flatMap_filter_sent (segments : List Segment) :
    (segments.filter (·.sent ≠ [])).flatMap Segment.sent = segments.flatMap Segment.sent := by
  induction segments with
  | nil => rfl
  | cons segment segments ih =>
    by_cases hnil : segment.sent = [] <;> simp_all

variable {sizes : List (Nat × Nat)} {source capacity limit : Nat}

/-- A segment that the stream left before its end was overrun. -/
theorem Leaves.overruns {start : Exchange} {payloads : List Bytes} {events : List Event}
    {segment : Segment} {next : Nat} (h : Leaves start source capacity payloads events segment next)
    (hbegins : segment.sent <+: wholePart payloads segment.sequence)
    (hincomplete : ¬ segment.IsComplete payloads) (hne : segment.sent ≠ []) :
    ∃ done, done <+: events ∧ (start.run done).Overruns source capacity payloads segment := by
  obtain ⟨-, done, event, rest, rfl, hnewest, hsequence, -, hwhy⟩ := h
  obtain ⟨hover, hoffset⟩ := hwhy.resolve_left hincomplete
  exact ⟨done, List.prefix_append _ _, hne, hbegins, hincomplete, hsequence, hoffset,
    next, hnewest, hover⟩

/-- If no accepted payload makes a boundary appear, every finished part that a viewer cuts out of a
stream ends with the header and one payload. What stands in front of them was sent of frames that
were overwritten before they were finished. There is nothing in front of them if that never
happened. -/
theorem mem_parts_stream (hsize : sizes[source]? = some (capacity, limit))
    (width height : Nat) (earlier : List Push) (session : Session) (files : FileSystem)
    (events : List Event)
    (hclean : ∀ payload ∈ acceptedBy source limit (earlier ++ pushes events),
      Multipart.IsClean payload) :
    let sources := (Registry.ofSizes sizes width height).pushedAll earlier
    let start := Exchange.begin session files sources (.stream source)
    let payloads := acceptedBy source limit (earlier ++ pushes events)
    let body := (start.run events).session.transport.sent.drop
      (session.transport.sent.length + Http.Reply.streamHeader.length)
    ∀ piece ∈ (Multipart.parts body).dropLast, ∃ payload ∈ payloads,
      (∃ broken : List Segment,
        piece = broken.flatMap Segment.sent ++ (Multipart.partHeader ++ payload) ∧
        ∀ segment ∈ broken, ∃ done, done <+: events ∧
          (start.run done).Overruns source (max capacity 1) payloads segment) ∧
      ((∀ done, done <+: events → ∀ segment,
          ¬ (start.run done).Overruns source (max capacity 1) payloads segment) →
        piece = Multipart.partHeader ++ payload) := by
  intro sources start payloads body piece hpiece
  obtain ⟨headSent, segments, hsegments, hshort, hsent, -⟩ :=
    exists_decomposition hsize width height earlier session files events
  -- What follows the head is the row of segments, also if the head is not finished.
  have hbody : body = segments.flatMap Segment.sent := by
    show List.drop _ (start.run events).session.transport.sent = _
    rw [hsent, ← List.drop_drop, List.drop_left]
    by_cases hhead : headSent < Http.Reply.streamHeader.length
    · rw [(hshort hhead).1, List.append_nil]
      exact List.drop_eq_nil_of_le (List.take_sublist _ _).length_le
    · rw [List.take_of_length_le (Nat.not_lt.mp hhead), List.drop_left]
  rw [hbody] at hpiece
  obtain ⟨broken, whole, payload, hrow, hpayload, hincomplete, rfl⟩ :=
    Multipart.exists_torn_of_mem_parts hclean [] hsegments.sent_prefix (by simp) hpiece
  -- A frame that the cursor left before its first byte was sent leaves no trace in the part, so
  -- only the others are named.
  have hoverrun : ∀ segment ∈ broken.filter (·.sent ≠ []), ∃ done, done <+: events ∧
      (start.run done).Overruns source (max capacity 1) payloads segment := by
    intro segment hsegment
    obtain ⟨hmem, hne⟩ := List.mem_filter.mp hsegment
    obtain ⟨next, hleaves⟩ := exists_rel_of_isChain hsegments.chain hrow segment hmem
    have hbegins := hsegments.sent_prefix segment
      (hrow.subset (List.mem_append_left _ hmem))
    exact hleaves.overruns hbegins (hincomplete segment hmem) (by simpa using hne)
  refine ⟨payload, hpayload, ⟨_, by rw [flatMap_filter_sent], hoverrun⟩, fun hnever => ?_⟩
  have hnone : broken.filter (·.sent ≠ []) = [] := by
    refine List.eq_nil_iff_forall_not_mem.mpr fun segment hsegment => ?_
    obtain ⟨done, hdone, hover⟩ := hoverrun segment hsegment
    exact hnever done hdone segment hover
  rw [← flatMap_filter_sent, hnone, List.flatMap_nil, List.nil_append]

section SlowViewer

/-- Neither image of the slow viewer makes a boundary appear. -/
private theorem isClean_slowViewer :
    ∀ payload ∈ acceptedBy 0 8 ([⟨0, [255, 216]⟩] ++ pushes slowEvents),
      Multipart.IsClean payload := by
  decide +kernel

/-- The slow viewer gets the start of one image and the whole of the next as a single part, so
parts are not always made of one payload. -/
theorem not_mem_parts_slowViewer :
    (∀ payload ∈ acceptedBy 0 8 ([⟨0, [255, 216]⟩] ++ pushes slowEvents),
      Multipart.IsClean payload) ∧
    let payloads := acceptedBy 0 8 ([⟨0, [255, 216]⟩] ++ pushes slowEvents)
    let body := (slowStart.run slowEvents).session.transport.sent.drop
      (slowViewer.transport.sent.length + Http.Reply.streamHeader.length)
    ¬ ∀ piece ∈ (Multipart.parts body).dropLast, ∃ payload ∈ payloads,
      piece = Multipart.partHeader ++ payload :=
  ⟨isClean_slowViewer, by decide +kernel⟩

/-- What stands in front of the image in that part was sent of the frame that was overwritten. -/
theorem mem_parts_stream_slowViewer : [(1, 8)][0]? = some (1, 8) ∧
    (∀ payload ∈ acceptedBy 0 8 ([⟨0, [255, 216]⟩] ++ pushes slowEvents),
      Multipart.IsClean payload) ∧
    let payloads := acceptedBy 0 8 ([⟨0, [255, 216]⟩] ++ pushes slowEvents)
    let body := (slowStart.run slowEvents).session.transport.sent.drop
      (slowViewer.transport.sent.length + Http.Reply.streamHeader.length)
    ∀ piece ∈ (Multipart.parts body).dropLast, ∃ payload ∈ payloads,
      (∃ broken : List Segment,
        piece = broken.flatMap Segment.sent ++ (Multipart.partHeader ++ payload) ∧
        ∀ segment ∈ broken, ∃ done, done <+: slowEvents ∧
          (slowStart.run done).Overruns 0 (max 1 1) payloads segment) ∧
      ((∀ done, done <+: slowEvents → ∀ segment,
          ¬ (slowStart.run done).Overruns 0 (max 1 1) payloads segment) →
        piece = Multipart.partHeader ++ payload) := by
  refine ⟨rfl, isClean_slowViewer, ?_⟩
  rw [slowStart]
  exact mem_parts_stream rfl 640 480 [⟨0, [255, 216]⟩] slowViewer {} slowEvents isClean_slowViewer

end SlowViewer

end MotionJpeg.Exchange
