import Mathlib.Data.List.Chain
import Mathlib.Data.List.TakeDrop
import MotionJpeg.Proofs.Frame.Cursor

/-!
# Segments of a stream

What a stream sends after its head is a row of segments: of every frame that its cursor came to,
the bytes that were sent before the cursor left it. The last segment belongs to the frame where
the cursor is.

* `Segment` is what was sent of one frame.
* `Transcript` ties the segments to the cursor and to the history of the store.
* `Streamed.caughtUp` and `Streamed.advance`: how an attempt to send continues the row.
-/

namespace MotionJpeg

/-- What a stream sent of one frame. -/
structure Segment where
  sequence : Nat
  sent : Bytes
  deriving DecidableEq, Repr

namespace Segment

/-- The frame was sent to its end. -/
def IsComplete (payloads : List Bytes) (segment : Segment) : Prop :=
  (payloads[segment.sequence]?).map Multipart.part = some segment.sent

instance (payloads : List Bytes) (segment : Segment) : Decidable (segment.IsComplete payloads) :=
  inferInstanceAs (Decidable (_ = _))

variable {payloads : List Bytes} {segment : Segment}

/-- A complete frame stays complete when the history grows. -/
theorem IsComplete.append (h : segment.IsComplete payloads) (later : List Bytes) :
    segment.IsComplete (payloads ++ later) := by
  obtain ⟨payload, hpayload, hsent⟩ := Option.map_eq_some_iff.mp h
  obtain ⟨hlt, -⟩ := List.getElem?_eq_some_iff.mp hpayload
  rw [IsComplete, List.getElem?_append_left hlt, hpayload, Option.map_some, hsent]

/-- A segment of the history is complete exactly if nothing of its part is missing. -/
theorem isComplete_iff (hlt : segment.sequence < payloads.length) :
    segment.IsComplete payloads ↔ segment.sent = wholePart payloads segment.sequence := by
  rw [IsComplete, wholePart, List.getElem?_eq_getElem hlt, Option.map_some, Option.getD_some,
    Option.some.injEq, eq_comm]

/-- No part is empty, so a complete segment is not. -/
theorem IsComplete.sent_ne_nil (h : segment.IsComplete payloads) : segment.sent ≠ [] := by
  obtain ⟨payload, -, hsent⟩ := Option.map_eq_some_iff.mp h
  intro hnil
  have hpos := Frame.partSize_pos payload.length
  rw [← Frame.length_part, hsent, hnil] at hpos
  exact absurd hpos (Nat.lt_irrefl 0)

/-- Whether a segment is complete is settled once its frame is stored. -/
theorem isComplete_append_iff (h : segment.sent <+: wholePart payloads segment.sequence)
    (later : List Bytes) :
    segment.IsComplete (payloads ++ later) ↔ segment.IsComplete payloads := by
  refine ⟨fun hcomplete => ?_, fun hcomplete => hcomplete.append later⟩
  -- Of a frame that is still to come nothing was sent, and a complete segment is not empty.
  by_cases hlt : segment.sequence < payloads.length
  · rwa [IsComplete, List.getElem?_append_left hlt] at hcomplete
  · rw [wholePart_of_length_le (Nat.not_lt.mp hlt), List.prefix_nil] at h
    exact absurd h hcomplete.sent_ne_nil

end Segment

namespace Cursor

/-- The segment that a cursor is at. -/
def segment (cursor : Cursor) (payloads : List Bytes) : Segment :=
  ⟨cursor.sequence, (wholePart payloads cursor.sequence).take cursor.offset⟩

/-- A cursor names a frame of the history or waits for the first one, and its offset lies in what
there is to send. -/
structure IsWithin (cursor : Cursor) (payloads : List Bytes) : Prop where
  sequence_lt : payloads ≠ [] → cursor.sequence < payloads.length
  sequence_eq : payloads = [] → cursor.sequence = 0
  offset_le : cursor.offset ≤ (wholePart payloads cursor.sequence).length

namespace IsWithin

variable {cursor : Cursor} {payloads : List Bytes}

/-- Nothing is sent before the first payload is accepted. -/
theorem offset_eq_zero (h : cursor.IsWithin payloads) (hnil : payloads = []) :
    cursor.offset = 0 := by
  have hle := h.offset_le
  rwa [hnil, wholePart_of_length_le (Nat.zero_le _), List.length_nil, Nat.le_zero] at hle

/-- The offset is the number of bytes that were sent. -/
theorem length_sent (h : cursor.IsWithin payloads) :
    (cursor.segment payloads).sent.length = cursor.offset := by
  rw [segment, List.length_take, Nat.min_eq_left h.offset_le]

/-- Payloads that are accepted later change nothing about a cursor's place. -/
theorem append (h : cursor.IsWithin payloads) (later : List Bytes) :
    cursor.IsWithin (payloads ++ later) := by
  -- A cursor that waits for the first payload gets it under its own sequence.
  by_cases hnil : payloads = []
  · have hsequence := h.sequence_eq hnil
    refine ⟨fun hne => ?_, fun _ => hsequence, ?_⟩
    · rw [hsequence]
      exact List.length_pos_iff.mpr hne
    · rw [h.offset_eq_zero hnil]
      exact Nat.zero_le _
  · have hlt := h.sequence_lt hnil
    refine ⟨fun _ => ?_, fun hnil' => absurd (List.append_eq_nil_iff.mp hnil').1 hnil, ?_⟩
    · rw [List.length_append]
      omega
    · rw [wholePart_append hlt]
      exact h.offset_le

/-- Payloads that are accepted later do not change the segment that a cursor is at. -/
theorem segment_append (h : cursor.IsWithin payloads) (later : List Bytes) :
    cursor.segment (payloads ++ later) = cursor.segment payloads := by
  by_cases hnil : payloads = []
  · rw [segment, segment, h.offset_eq_zero hnil, List.take_zero, List.take_zero]
  · rw [segment, segment, wholePart_append (h.sequence_lt hnil)]

/-- A cursor begins at the newest frame, or waits for the first one. -/
theorem of_bind (source : Nat) {store : Store} (hstore : store.Records payloads) :
    (Cursor.bind source store).IsWithin payloads where
  sequence_lt hne := by
    have hpos := List.length_pos_iff.mpr hne
    simp only [Cursor.bind, hstore.newest?_eq, if_neg hne, Option.getD_some]
    omega
  sequence_eq hnil := by simp [Cursor.bind, hstore.newest?_eq, hnil]
  offset_le := Nat.zero_le _

/-- A cursor that goes to the newest frame is at its start. -/
theorem toNewest (cursor : Cursor) (hne : payloads ≠ []) :
    (cursor.toNewest payloads).IsWithin payloads where
  sequence_lt _ := Nat.sub_lt (List.length_pos_iff.mpr hne) Nat.one_pos
  sequence_eq hnil := absurd hnil hne
  offset_le := Nat.zero_le _

/-- A cursor that catches up stays where it is or goes to the newest frame. -/
theorem caughtUp (h : cursor.IsWithin payloads) {store : Store} (hstore : store.Records payloads) :
    (cursor.caughtUp store).IsWithin payloads := by
  by_cases hnil : payloads = []
  · subst hnil
    rwa [cursor.caughtUp_of_nil hstore]
  · rw [cursor.caughtUp_eq hstore (h.sequence_lt hnil)]
    split
    · exact h
    · exact toNewest cursor hnil

/-- Bytes that are sent of a frame move a cursor along it, and from its end to the newest frame. -/
theorem advance (h : cursor.IsWithin payloads) {store : Store} (hstore : store.Records payloads)
    (hne : payloads ≠ []) (hwindow : payloads.length ≤ cursor.sequence + store.capacity)
    {count : Nat} (hcount : cursor.offset + count ≤ (wholePart payloads cursor.sequence).length) :
    (cursor.advance store count).2.IsWithin payloads := by
  rw [cursor.advance_eq hstore (h.sequence_lt hne) hwindow hcount]
  dsimp only
  split
  · exact toNewest cursor hne
  · exact { h with offset_le := hcount }

/-- A cursor that has sent no more than the image of its frame lies in the part. -/
theorem withOffset (h : cursor.IsWithin payloads) {offset : Nat}
    (hoffset : offset ≤ ((payloads[cursor.sequence]?).getD []).length) :
    ({ cursor with offset } : Cursor).IsWithin payloads where
  sequence_lt := h.sequence_lt
  sequence_eq := h.sequence_eq
  offset_le := by
    refine Nat.le_trans hoffset ?_
    cases hpayload : payloads[cursor.sequence]? with
    | none => exact Nat.zero_le _
    | some payload =>
      simp only [Option.getD_some, wholePart_of_getElem? hpayload, Frame.length_part,
        Frame.partSize]
      omega

end IsWithin

end Cursor

/-- The segments of a stream whose cursor has left the `earlier` ones behind. -/
def segmentsTo (payloads : List Bytes) (earlier : List Segment) (cursor : Cursor) : List Segment :=
  earlier ++ [cursor.segment payloads]

/-- The segments end where the cursor is, when `leaves` says from which segment a cursor may go on
to which sequence. -/
structure Transcript (payloads : List Bytes) (leaves : Segment → Nat → Prop)
    (earlier : List Segment) (cursor : Cursor) : Prop where
  isWithin : cursor.IsWithin payloads
  sent_prefix : ∀ segment ∈ earlier, segment.sent <+: wholePart payloads segment.sequence
  chain : earlier.IsChain fun old new => leaves old new.sequence
  /-- The cursor came from the last of the earlier segments. -/
  came_from : ∀ old ∈ earlier.getLast?, leaves old cursor.sequence

section Bytes

variable {payloads : List Bytes} (earlier : List Segment) {cursor : Cursor}

/-- Bytes that were sent of the cursor's frame come after everything else. -/
theorem flatMap_segmentsTo_write (count : Nat) :
    (segmentsTo payloads earlier { cursor with offset := cursor.offset + count }).flatMap
        Segment.sent =
      (segmentsTo payloads earlier cursor).flatMap Segment.sent ++
        ((wholePart payloads cursor.sequence).drop cursor.offset).take count := by
  simp [segmentsTo, Cursor.segment, List.take_add]

/-- To leave a frame sends nothing. -/
theorem flatMap_segmentsTo_leave :
    (segmentsTo payloads (earlier ++ [cursor.segment payloads])
        (cursor.toNewest payloads)).flatMap Segment.sent =
      (segmentsTo payloads earlier cursor).flatMap Segment.sent := by
  simp [segmentsTo, Cursor.segment, Cursor.toNewest]

/-- A segment is complete when the offset has reached the end of its part. -/
theorem isComplete_segment_iff (cursor : Cursor) (hlt : cursor.sequence < payloads.length)
    (hoffset : cursor.offset ≤ (wholePart payloads cursor.sequence).length) :
    (cursor.segment payloads).IsComplete payloads ↔
      cursor.offset = (wholePart payloads cursor.sequence).length := by
  rw [Segment.isComplete_iff hlt, Cursor.segment, List.take_eq_self_iff]
  omega

/-- A frame counts as soon as its last byte was sent, and only once. -/
theorem countP_segmentsTo_write {count : Nat} (hlt : cursor.sequence < payloads.length)
    (hcount : cursor.offset + count ≤ (wholePart payloads cursor.sequence).length) :
    (segmentsTo payloads earlier { cursor with offset := cursor.offset + count }).countP
        (·.IsComplete payloads) =
      (segmentsTo payloads earlier cursor).countP (·.IsComplete payloads) +
        if cursor.offset + count = (wholePart payloads cursor.sequence).length ∧ 0 < count
        then 1 else 0 := by
  have hbefore := isComplete_segment_iff cursor hlt (by omega)
  have hafter := isComplete_segment_iff { cursor with offset := cursor.offset + count } hlt hcount
  -- If the last byte had been sent before, the write would have taken nothing.
  simp only [segmentsTo, List.countP_append, List.countP_singleton, hbefore, hafter,
    decide_eq_true_eq]
  split <;> split <;> split <;> omega

/-- A frame that was come to is not complete. -/
theorem countP_segmentsTo_leave :
    (segmentsTo payloads (earlier ++ [cursor.segment payloads])
        (cursor.toNewest payloads)).countP (·.IsComplete payloads) =
      (segmentsTo payloads earlier cursor).countP (·.IsComplete payloads) := by
  have hnew : ¬ (Cursor.segment (cursor.toNewest payloads) payloads).IsComplete payloads :=
    fun h => h.sent_ne_nil rfl
  simp only [segmentsTo, List.countP_append, List.countP_singleton, hnew, decide_false,
    Bool.false_eq_true, if_false, Nat.add_zero]

end Bytes

namespace Transcript

variable {payloads : List Bytes} {leaves : Segment → Nat → Prop} {earlier : List Segment}
  {cursor : Cursor}

/-- A stream begins with one segment, of which nothing was sent. -/
theorem begin (source : Nat) {store : Store} (h : store.Records payloads) :
    Transcript payloads leaves [] (.bind source store) where
  isWithin := .of_bind source h
  sent_prefix := by simp
  chain := .nil
  came_from := by simp

/-- More bytes of the cursor's frame are sent. -/
theorem write (h : Transcript payloads leaves earlier cursor) {count : Nat}
    (hcount : cursor.offset + count ≤ (wholePart payloads cursor.sequence).length) :
    Transcript payloads leaves earlier { cursor with offset := cursor.offset + count } :=
  { h with isWithin := { h.isWithin with offset_le := hcount } }

/-- The cursor leaves its frame for the newest one. -/
theorem leave (h : Transcript payloads leaves earlier cursor) (hne : payloads ≠ [])
    (hleaves : leaves (cursor.segment payloads) (payloads.length - 1)) :
    Transcript payloads leaves (earlier ++ [cursor.segment payloads])
      (cursor.toNewest payloads) where
  isWithin := .toNewest cursor hne
  sent_prefix segment hsegment := by
    rcases List.mem_append.mp hsegment with hold | hnew
    · exact h.sent_prefix segment hold
    · rw [List.mem_singleton.mp hnew]
      exact List.take_prefix _ _
  chain := by
    refine List.isChain_append.mpr ⟨h.chain, List.isChain_singleton _, fun old hold new hnew => ?_⟩
    rw [List.head?_cons, Option.mem_some_iff] at hnew
    rw [← hnew]
    exact h.came_from old hold
  came_from old hold := by
    rw [List.getLast?_concat, Option.mem_some_iff] at hold
    rw [← hold]
    exact hleaves

/-- All segments are beginnings of parts. -/
theorem sent_prefix_of_mem (h : Transcript payloads leaves earlier cursor) {segment : Segment}
    (hsegment : segment ∈ segmentsTo payloads earlier cursor) :
    segment.sent <+: wholePart payloads segment.sequence := by
  rcases List.mem_append.mp hsegment with hold | hnew
  · exact h.sent_prefix segment hold
  · rw [List.mem_singleton.mp hnew]
    exact List.take_prefix _ _

/-- From every segment the cursor went on to the next. -/
theorem isChain (h : Transcript payloads leaves earlier cursor) :
    (segmentsTo payloads earlier cursor).IsChain fun old new => leaves old new.sequence := by
  refine List.isChain_append.mpr ⟨h.chain, List.isChain_singleton _, fun old hold new hnew => ?_⟩
  rw [List.head?_cons, Option.mem_some_iff] at hnew
  rw [← hnew]
  exact h.came_from old hold

/-- Payloads that are accepted later do not change what was sent. -/
theorem segmentsTo_append (h : Transcript payloads leaves earlier cursor) (later : List Bytes) :
    segmentsTo (payloads ++ later) earlier cursor = segmentsTo payloads earlier cursor := by
  rw [segmentsTo, h.isWithin.segment_append, segmentsTo]

/-- Payloads that are accepted later complete no frame. -/
theorem countP_segmentsTo_append (h : Transcript payloads leaves earlier cursor)
    (later : List Bytes) :
    (segmentsTo (payloads ++ later) earlier cursor).countP (·.IsComplete (payloads ++ later)) =
      (segmentsTo payloads earlier cursor).countP (·.IsComplete payloads) := by
  rw [h.segmentsTo_append]
  refine List.countP_congr fun segment hsegment => ?_
  rw [decide_eq_true_iff, decide_eq_true_iff]
  exact Segment.isComplete_append_iff (h.sent_prefix_of_mem hsegment) later

/-- Segments stay in order when payloads are accepted and when a cursor has more ways to go. -/
theorem mono (h : Transcript payloads leaves earlier cursor) (later : List Bytes)
    {leaves' : Segment → Nat → Prop} (hleaves : ∀ old next, leaves old next → leaves' old next) :
    Transcript (payloads ++ later) leaves' earlier cursor where
  isWithin := h.isWithin.append later
  sent_prefix segment hsegment :=
    (h.sent_prefix segment hsegment).trans (wholePart_prefix_append payloads later _)
  chain := h.chain.imp fun old new => hleaves old new.sequence
  came_from old hold := hleaves old _ (h.came_from old hold)

end Transcript

/-- A stream that began with the frame `first` has sent `body` after its head, `frames` of its
frames to the end, and its cursor is where that leads. -/
def Streamed (payloads : List Bytes) (leaves : Segment → Nat → Prop) (first : Nat)
    (cursor : Cursor) (body : Bytes) (frames : Nat) : Prop :=
  ∃ earlier, Transcript payloads leaves earlier cursor ∧
    ((segmentsTo payloads earlier cursor).head?.map Segment.sequence = some first) ∧
    (segmentsTo payloads earlier cursor).flatMap Segment.sent = body ∧
    (segmentsTo payloads earlier cursor).countP (·.IsComplete payloads) = frames

namespace Streamed

variable {payloads : List Bytes} {leaves : Segment → Nat → Prop} {first : Nat} {cursor : Cursor}
  {body : Bytes} {frames : Nat}

/-- The first segment is not changed by what comes after it. -/
private theorem head?_leave {earlier : List Segment} :
    (segmentsTo payloads (earlier ++ [cursor.segment payloads])
        (cursor.toNewest payloads)).head?.map Segment.sequence =
      (segmentsTo payloads earlier cursor).head?.map Segment.sequence := by
  rw [segmentsTo, segmentsTo, List.head?_append, List.head?_append]
  cases earlier <;> rfl

private theorem head?_write {earlier : List Segment} (count : Nat) :
    (segmentsTo payloads earlier { cursor with offset := cursor.offset + count }).head?.map
        Segment.sequence =
      (segmentsTo payloads earlier cursor).head?.map Segment.sequence := by
  rw [segmentsTo, segmentsTo]
  cases earlier <;> rfl

theorem isWithin (h : Streamed payloads leaves first cursor body frames) :
    cursor.IsWithin payloads := by
  obtain ⟨earlier, htranscript, -⟩ := h
  exact htranscript.isWithin

/-- A stream begins with nothing sent. -/
theorem begin (source : Nat) {store : Store} (h : store.Records payloads) :
    Streamed payloads leaves (Cursor.bind source store).sequence (.bind source store) [] 0 := by
  refine ⟨[], .begin source h, rfl, ?_, ?_⟩
  · simp [segmentsTo, Cursor.segment, Cursor.bind]
  · have hincomplete : ¬ ((Cursor.bind source store).segment payloads).IsComplete payloads :=
      fun hcomplete => hcomplete.sent_ne_nil rfl
    simp [segmentsTo, hincomplete]

/-- Nothing changes when payloads are accepted or a cursor has more ways to go. -/
theorem mono (h : Streamed payloads leaves first cursor body frames) (later : List Bytes)
    {leaves' : Segment → Nat → Prop} (hleaves : ∀ old next, leaves old next → leaves' old next) :
    Streamed (payloads ++ later) leaves' first cursor body frames := by
  obtain ⟨earlier, htranscript, hfirst, hbody, hframes⟩ := h
  refine ⟨earlier, htranscript.mono later hleaves, ?_, ?_, ?_⟩
  · rw [htranscript.segmentsTo_append, hfirst]
  · rw [htranscript.segmentsTo_append, hbody]
  · rw [htranscript.countP_segmentsTo_append, hframes]

/-- The cursor leaves its frame. -/
theorem leave (h : Streamed payloads leaves first cursor body frames) (hne : payloads ≠ [])
    (hleaves : leaves (cursor.segment payloads) (payloads.length - 1)) :
    Streamed payloads leaves first (cursor.toNewest payloads) body frames := by
  obtain ⟨earlier, htranscript, hfirst, hbody, hframes⟩ := h
  refine ⟨_, htranscript.leave hne hleaves, ?_, ?_, ?_⟩
  · rw [head?_leave, hfirst]
  · rw [flatMap_segmentsTo_leave, hbody]
  · rw [countP_segmentsTo_leave, hframes]

/-- More bytes of the cursor's frame are sent. -/
theorem write (h : Streamed payloads leaves first cursor body frames) (hne : payloads ≠ [])
    {count : Nat} (hcount : cursor.offset + count ≤ (wholePart payloads cursor.sequence).length) :
    Streamed payloads leaves first { cursor with offset := cursor.offset + count }
      (body ++ ((wholePart payloads cursor.sequence).drop cursor.offset).take count)
      (frames + if cursor.offset + count = (wholePart payloads cursor.sequence).length ∧
        0 < count then 1 else 0) := by
  obtain ⟨earlier, htranscript, hfirst, hbody, hframes⟩ := h
  refine ⟨earlier, htranscript.write hcount, ?_, ?_, ?_⟩
  · rw [head?_write, hfirst]
  · rw [flatMap_segmentsTo_write, hbody]
  · rw [countP_segmentsTo_write earlier (htranscript.isWithin.sequence_lt hne) hcount, hframes]

variable {store : Store} (hstore : store.Records payloads)

include hstore

/-- A cursor that catches up leaves its frame only if it was overwritten. -/
theorem caughtUp (h : Streamed payloads leaves first cursor body frames) (hne : payloads ≠ [])
    (hleaves : cursor.sequence + store.capacity < payloads.length →
      leaves (cursor.segment payloads) (payloads.length - 1)) :
    Streamed payloads leaves first (cursor.caughtUp store) body frames := by
  rw [cursor.caughtUp_eq hstore (h.isWithin.sequence_lt hne)]
  by_cases hwindow : payloads.length ≤ cursor.sequence + store.capacity
  · rwa [if_pos hwindow]
  · rw [if_neg hwindow]
    exact h.leave hne (hleaves (Nat.not_le.mp hwindow))

/-- A cursor that moves on leaves its frame only at the end, and only for a newer one. -/
theorem advance (h : Streamed payloads leaves first cursor body frames) (hne : payloads ≠ [])
    (hwindow : payloads.length ≤ cursor.sequence + store.capacity) {count : Nat}
    (hcount : cursor.offset + count ≤ (wholePart payloads cursor.sequence).length)
    (hleaves : cursor.sequence + 1 < payloads.length →
      (cursor.advance store count).2.sequence = payloads.length - 1 →
      leaves ⟨cursor.sequence, wholePart payloads cursor.sequence⟩ (payloads.length - 1)) :
    Streamed payloads leaves first (cursor.advance store count).2
      (body ++ ((wholePart payloads cursor.sequence).drop cursor.offset).take count)
      (frames + if (cursor.advance store count).1 then 1 else 0) := by
  -- First the bytes are written, then the cursor may leave the frame that they complete.
  have hwritten := h.write hne hcount
  rw [cursor.advance_eq hstore (h.isWithin.sequence_lt hne) hwindow hcount] at hleaves ⊢
  simp only [decide_eq_true_eq]
  by_cases hleft : cursor.offset + count = (wholePart payloads cursor.sequence).length ∧
      cursor.sequence + 1 < payloads.length
  · rw [if_pos hleft] at hleaves ⊢
    refine hwritten.leave hne ?_
    rw [Cursor.segment, hleft.1, List.take_length]
    exact hleaves hleft.2 rfl
  · rw [if_neg hleft]
    exact hwritten

end Streamed

end MotionJpeg
