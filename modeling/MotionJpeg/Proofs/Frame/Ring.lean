import Mathlib.Data.List.Basic
import MotionJpeg.Frame.Cursor
import MotionJpeg.Frame.Registry

/-!
# What a store remembers

The history of a store is the list of the payloads it has accepted. The ring holds the last of
them, each under its place in the history, and nothing else.

* `Store.Records`: the store has the given history.
* `Store.Records.get?_eq`: what a store finds for a sequence of its history.
* `Store.Records.push`: a push that is accepted adds its payload to the history.
-/

namespace MotionJpeg

/-- The store has accepted these payloads, in this order. -/
structure Store.Records (store : Store) (payloads : List Bytes) : Prop where
  accepted_eq : store.accepted = payloads.length
  /-- A payload of the window lies in the slot for its sequence. -/
  slot_eq : ∀ sequence payload, payloads[sequence]? = some payload →
    payloads.length ≤ sequence + store.capacity →
    store.slots[store.slot sequence] = some { sequence, payload }
  /-- Slots for sequences that are yet to come for the first time are empty. -/
  slot_eq_none : ∀ sequence < store.capacity, payloads.length ≤ sequence →
    store.slots[store.slot sequence] = none

namespace Store.Records

variable {store : Store} {payloads : List Bytes} {payload : Bytes} {sequence : Nat}

/-- A new store has an empty history. -/
theorem empty (capacity maxPayload : Nat) : (Store.empty capacity maxPayload).Records [] where
  accepted_eq := rfl
  slot_eq := by simp
  slot_eq_none sequence hsequence _ := Vector.getElem_replicate _

/-- Two sequences that are less than a capacity apart lie in different slots. -/
private theorem slot_ne_of_lt {newer : Nat} (hlt : sequence < newer)
    (hnear : newer < sequence + store.capacity) :
    (store.slot newer : Nat) ≠ store.slot sequence := by
  intro heq
  have hmod : (newer - sequence) % store.capacity = 0 := Nat.sub_mod_eq_zero_of_mod_eq heq
  rw [Nat.mod_eq_of_lt (by omega)] at hmod
  omega

/-- A payload that is not too large is added to the history, under the next sequence. -/
theorem push (h : store.Records payloads) (hfits : payload.length ≤ store.maxPayload) :
    ∃ next, store.push payload = .ok (payloads.length, next) ∧
      next.Records (payloads ++ [payload]) ∧ next.capacity = store.capacity ∧
      next.maxPayload = store.maxPayload := by
  obtain ⟨haccepted, hslot, hnone⟩ := h
  rw [← haccepted] at hslot hnone ⊢
  -- Only the slot for the new sequence is written. A slot for another sequence stays what it was
  -- if that is less than a capacity away.
  have hslot_lt : (store.slot store.accepted : Nat) < store.capacity :=
    (store.slot store.accepted).isLt
  refine ⟨_, if_neg (Nat.not_lt.mpr hfits), ⟨by simp [haccepted], ?_, ?_⟩, rfl, rfl⟩
  · intro sequence other hother (hwindow : _ ≤ sequence + store.capacity)
    rw [List.length_append, List.length_singleton, ← haccepted] at hwindow
    rcases Nat.lt_trichotomy sequence store.accepted with hlt | rfl | hgt
    · -- An older payload of the window.
      rw [List.getElem?_append_left (by omega)] at hother
      exact (Vector.getElem_set_ne hslot_lt _ (slot_ne_of_lt hlt (by omega))).trans
        (hslot sequence other hother (by omega))
    · -- The payload that was pushed.
      rw [haccepted, List.getElem?_concat_length, Option.some.injEq] at hother
      subst hother
      exact Vector.getElem_set_self _
    · -- There is no payload after it.
      rw [List.getElem?_eq_none (by simp; omega)] at hother
      cases hother
  · intro sequence (hsequence : sequence < store.capacity) hnew
    rw [List.length_append, List.length_singleton, ← haccepted] at hnew
    have hlt : store.accepted < sequence := hnew
    exact (Vector.getElem_set_ne hslot_lt _ (slot_ne_of_lt hlt (by omega)).symm).trans
      (hnone sequence hsequence (by omega))

/-- The newest sequence is that of the last payload. -/
theorem newest?_eq (h : store.Records payloads) :
    store.newest? = if payloads = [] then none else some (payloads.length - 1) := by
  simp only [Store.newest?, h.accepted_eq, List.length_eq_zero_iff]

/-- Nothing is found before the first payload. -/
theorem get?_of_nil (h : store.Records []) : store.get? sequence = none := by
  rw [Store.get?, h.newest?_eq, if_pos rfl]

/-- A sequence of the history is found as long as it is one of the last, with its own payload. -/
theorem get?_eq (h : store.Records payloads) (hpayload : payloads[sequence]? = some payload) :
    store.get? sequence =
      if payloads.length ≤ sequence + store.capacity then some { sequence, payload } else none := by
  obtain ⟨hlt, -⟩ := List.getElem?_eq_some_iff.mp hpayload
  have hne : payloads ≠ [] := List.ne_nil_of_length_pos (by omega)
  rw [Store.get?, h.newest?_eq, if_neg hne]
  by_cases hwindow : payloads.length ≤ sequence + store.capacity
  · rw [if_pos hwindow]
    exact (if_neg (by omega)).trans (h.slot_eq sequence payload hpayload hwindow)
  · rw [if_neg hwindow]
    exact if_pos (by omega)

end Store.Records

end MotionJpeg
