import Mathlib.Data.List.Infix
import MotionJpeg.Proofs.Frame.Ring

/-!
# Cursors in a history

Where a cursor is and where it goes, told by the history of its store instead of the ring.

* `wholePart` is what a stream has to send for a sequence.
* `Cursor.caughtUp_eq`: a cursor leaves a sequence of the history only if it was overwritten.
* `Cursor.unsent?_eq` and `Cursor.advance_eq`: what is sent next, and where that leads.
* `Cursor.unsentPayload?_eq_none_iff`: when a still finds nothing of its image.
-/

namespace MotionJpeg

/-- The part that a stream sends for a sequence of a history, nothing for one that is to come. -/
def wholePart (payloads : List Bytes) (sequence : Nat) : Bytes :=
  ((payloads[sequence]?).map Multipart.part).getD []

theorem wholePart_of_getElem? {payloads : List Bytes} {sequence : Nat} {payload : Bytes}
    (h : payloads[sequence]? = some payload) :
    wholePart payloads sequence = Multipart.part payload := by
  rw [wholePart, h]
  rfl

theorem wholePart_of_length_le {payloads : List Bytes} {sequence : Nat}
    (h : payloads.length ≤ sequence) : wholePart payloads sequence = [] := by
  rw [wholePart, List.getElem?_eq_none h]
  rfl

/-- What a history holds already is not changed by payloads that are accepted later. -/
theorem wholePart_append {payloads : List Bytes} {sequence : Nat} (h : sequence < payloads.length)
    (later : List Bytes) :
    wholePart (payloads ++ later) sequence = wholePart payloads sequence := by
  rw [wholePart, List.getElem?_append_left h, wholePart]

/-- What there is to send for a sequence does not change once it is something. -/
theorem wholePart_prefix_append (payloads later : List Bytes) (sequence : Nat) :
    wholePart payloads sequence <+: wholePart (payloads ++ later) sequence := by
  by_cases h : sequence < payloads.length
  · rw [wholePart_append h]
  · rw [wholePart_of_length_le (Nat.not_lt.mp h)]
    exact List.nil_prefix

namespace Cursor

variable {store : Store} {payloads : List Bytes} (cursor : Cursor)

/-- The start of the newest frame of a history, for the cursor's source. -/
def toNewest (payloads : List Bytes) : Cursor := ⟨cursor.source, payloads.length - 1, 0⟩

/-- A cursor stays with its source. -/
@[simp]
theorem source_caughtUp (store : Store) : (cursor.caughtUp store).source = cursor.source := by
  rw [caughtUp]
  split
  · split <;> rfl
  · rfl

@[simp]
theorem source_advance (store : Store) (written : Nat) :
    (cursor.advance store written).2.source = cursor.source := by
  rw [advance]
  split
  · rfl
  · dsimp only
    split
    · split <;> rfl
    · rfl

/-- A cursor at the newest frame has nowhere to go. -/
theorem sequence_advance_of_newest (h : store.Records payloads)
    (hnewest : cursor.sequence = payloads.length - 1) (written : Nat) :
    (cursor.advance store written).2.sequence = payloads.length - 1 := by
  rw [advance, h.newest?_eq]
  split
  · exact hnewest
  · dsimp only
    by_cases hnil : payloads = []
    · rw [if_pos hnil]
      exact hnewest
    · rw [if_neg hnil]
      dsimp only
      split
      · rfl
      · exact hnewest

/-- As long as nothing was stored a cursor waits. -/
theorem caughtUp_of_nil (h : store.Records []) : cursor.caughtUp store = cursor := by
  simp [caughtUp, h.newest?_eq]

/-- As long as nothing was stored there is nothing to send. -/
theorem unsent?_of_nil (h : store.Records []) : cursor.unsent? store = none := by
  rw [unsent?, h.get?_of_nil]
  rfl

/-- A still finds nothing exactly if its frame was not stored yet or was overwritten. -/
theorem unsentPayload?_eq_none_iff (h : store.Records payloads)
    (hsequence : payloads ≠ [] → cursor.sequence < payloads.length) :
    cursor.unsentPayload? store = none ↔
      payloads.length ≤ cursor.sequence ∨ cursor.sequence + store.capacity < payloads.length := by
  rw [unsentPayload?, Option.map_eq_none_iff]
  by_cases hnil : payloads = []
  · -- Nothing was stored yet, so whatever the sequence is it is still to come.
    subst hnil
    simp [h.get?_of_nil]
  · have hlt := hsequence hnil
    rw [h.get?_eq (List.getElem?_eq_getElem hlt)]
    split
    next hwindow => simp; omega
    next hwindow => simp; omega

/-- What a still finds is the rest of its image. -/
theorem toBytes_of_unsentPayload? (h : store.Records payloads)
    (hsequence : payloads ≠ [] → cursor.sequence < payloads.length) {bytes : Slice}
    (hbytes : cursor.unsentPayload? store = some bytes) :
    bytes.toBytes = ((payloads[cursor.sequence]?).getD []).drop cursor.offset := by
  obtain ⟨frame, hframe, rfl⟩ := Option.map_eq_some_iff.mp hbytes
  -- A frame was found, so the history is not empty and the sequence is one of it.
  have hne : payloads ≠ [] := by
    rintro rfl
    rw [h.get?_of_nil] at hframe
    cases hframe
  have hpayload := List.getElem?_eq_getElem (hsequence hne)
  rw [h.get?_eq hpayload] at hframe
  split at hframe
  · cases hframe
    rw [Slice.toBytes_drop, Frame.toBytes_image, hpayload, Option.getD_some]
  · cases hframe

variable (h : store.Records payloads) (hlt : cursor.sequence < payloads.length)

include h hlt

/-- A cursor goes to the newest frame if its own was overwritten, and stays otherwise. -/
theorem caughtUp_eq : cursor.caughtUp store =
    if payloads.length ≤ cursor.sequence + store.capacity then cursor
    else cursor.toNewest payloads := by
  have hget := h.get?_eq (List.getElem?_eq_getElem hlt)
  have hne : payloads ≠ [] := List.ne_nil_of_length_pos (by omega)
  rw [caughtUp, Store.isStale, hget, h.newest?_eq, if_neg hne]
  by_cases hwindow : payloads.length ≤ cursor.sequence + store.capacity
  · simp [hwindow]
  · simp [hwindow, toNewest]

/-- A cursor that has caught up is at a frame that was not overwritten. -/
theorem caughtUp_inWindow : (cursor.caughtUp store).sequence < payloads.length ∧
    payloads.length ≤ (cursor.caughtUp store).sequence + store.capacity := by
  have hpos := store.capacity_pos
  rw [cursor.caughtUp_eq h hlt]
  split
  next hwindow => exact ⟨hlt, hwindow⟩
  next => exact ⟨by simp only [toNewest]; omega, by simp only [toNewest]; omega⟩

variable (hwindow : payloads.length ≤ cursor.sequence + store.capacity)

include hwindow

/-- What is left of a frame that was not overwritten is the rest of its part. -/
theorem unsent?_eq : ∃ bytes, cursor.unsent? store = some bytes ∧
    bytes.toBytes = (wholePart payloads cursor.sequence).drop cursor.offset := by
  have hpayload := List.getElem?_eq_getElem hlt
  have hget := h.get?_eq hpayload
  rw [if_pos hwindow] at hget
  refine ⟨_, by rw [unsent?, hget]; rfl, ?_⟩
  rw [Slice.toBytes_drop, Frame.toBytes_part, wholePart_of_getElem? hpayload]
  rfl

/-- Sent bytes move a cursor along its frame. From the end of the frame it goes to the newest one
if that is another. -/
theorem advance_eq {written : Nat}
    (hwritten : cursor.offset + written ≤ (wholePart payloads cursor.sequence).length) :
    cursor.advance store written =
      (decide (cursor.offset + written = (wholePart payloads cursor.sequence).length ∧ 0 < written),
        if cursor.offset + written = (wholePart payloads cursor.sequence).length ∧
            cursor.sequence + 1 < payloads.length then cursor.toNewest payloads
        else { cursor with offset := cursor.offset + written }) := by
  have hpayload := List.getElem?_eq_getElem hlt
  have hget := h.get?_eq hpayload
  rw [if_pos hwindow] at hget
  have hne : payloads ≠ [] := List.ne_nil_of_length_pos (by omega)
  have hnewer : cursor.sequence < payloads.length - 1 ↔ cursor.sequence + 1 < payloads.length := by
    omega
  rw [wholePart_of_getElem? hpayload, Frame.length_part] at hwritten ⊢
  rw [advance, hget, h.newest?_eq, if_neg hne]
  -- No more is written than is left of the frame, so the offset is not cut off at its end.
  simp only [Frame.size_eq, Nat.min_eq_left hwritten]
  by_cases hend : cursor.offset + written = Frame.partSize payloads[cursor.sequence].length
  · simp [hend, hnewer, toNewest]
  · simp [hend]

end Cursor

end MotionJpeg
