import MotionJpeg.Frame.Basic

/-!
# Frame stores

A store keeps the last frames of one source in a ring: the frame with sequence `s` lies in slot
`s % capacity` until the frame `capacity` later takes its place.

* `Store.push` accepts a payload that is not too large and numbers it.
* `Store.get?` looks a sequence up. It knows only the window: for a sequence that is yet to come
  it gives whatever occupies the slot.
-/

namespace MotionJpeg

/-- The ring of the last frames of a source. -/
structure Store where
  capacity : Nat
  /-- The slots, empty until first written. -/
  slots : Vector (Option Frame) capacity
  /-- How many frames were accepted, which is the sequence of the next one. -/
  accepted : Nat
  /-- The longest payload that is accepted. -/
  maxPayload : Nat
  /-- There is a slot for every sequence. -/
  capacity_pos : 0 < capacity

namespace Store

/-- The number of frames kept where nothing else is asked for. -/
def defaultCapacity : Nat := 8

/-- The longest payload accepted where nothing else is asked for, one mebibyte. -/
def defaultMaxPayload : Nat := 1024 * 1024

/-- A store with no frame yet. It has at least one slot. -/
def empty (capacity : Nat) (maxPayload : Nat := defaultMaxPayload) : Store where
  capacity := max capacity 1
  slots := Vector.replicate (max capacity 1) none
  accepted := 0
  maxPayload
  capacity_pos := by omega

instance : Inhabited Store := ⟨empty defaultCapacity⟩

/-- Why a payload was not stored. -/
inductive PushFailure where
  /-- The part made of the payload would have `size` bytes, and payloads end at `limit`. -/
  | tooLarge (size limit : Nat)
  /-- There is no source with this index. -/
  | unknownSource (index : Nat)
  deriving DecidableEq, Repr

/-- The words for a failure. -/
def PushFailure.message : PushFailure → String
  | tooLarge size limit =>
    "Frame is larger than the maximum frame size: data_len = " ++ toString size ++ " (max " ++
      toString limit ++ ")"
  | unknownSource index => "Unknown video source: " ++ toString index

variable (store : Store)

/-- No frame has been stored yet. -/
def isEmpty : Bool := store.accepted == 0

/-- The sequence of the last frame stored. -/
def newest? : Option Nat := if store.accepted = 0 then none else some (store.accepted - 1)

/-- The slot for a sequence. -/
def slot (sequence : Nat) : Fin store.capacity :=
  ⟨sequence % store.capacity, Nat.mod_lt _ store.capacity_pos⟩

/-- Stores a payload in the place of the oldest frame and gives its sequence. A payload that is
too large leaves the store as it is. -/
def push (payload : Bytes) : Except PushFailure (Nat × Store) :=
  if payload.length > store.maxPayload then
    .error (.tooLarge (Frame.partSize payload.length) store.maxPayload)
  else
    .ok (store.accepted,
      { store with
        slots := store.slots.set (store.slot store.accepted)
          (some { sequence := store.accepted, payload })
        accepted := store.accepted + 1 })

/-- The frame in the slot of a sequence, unless the sequence has left the window. -/
def get? (sequence : Nat) : Option Frame :=
  match store.newest? with
  | none => none
  | some newest =>
    -- Sequences that are yet to come are not told apart from older ones in the same slot.
    if sequence + store.capacity ≤ newest then none else store.slots[store.slot sequence]

/-- There is no frame for this sequence any more. -/
def isStale (sequence : Nat) : Bool := (store.get? sequence).isNone

end Store

end MotionJpeg
