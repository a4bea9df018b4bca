import MotionJpeg.Frame.Store

/-!
# Cursors

A cursor is the place of a client in a store: a sequence and how much of that frame it has got. A
stream aims for the newest frame. A cursor whose frame was overwritten jumps to the newest, and
one that has finished its frame goes on with the newest; the frames between are skipped.
-/

namespace MotionJpeg

/-- A place in a store. -/
structure Cursor where
  /-- The index of the source. -/
  source : Nat
  /-- The frame that is being sent. -/
  sequence : Nat
  /-- How many of its bytes were sent. -/
  offset : Nat
  deriving DecidableEq, Repr

namespace Cursor

/-- The start of the newest frame, or of the first one to come. -/
def bind (source : Nat) (store : Store) : Cursor := ⟨source, store.newest?.getD 0, 0⟩

variable (cursor : Cursor) (store : Store)

/-- The start of the newest frame if the store has none for the cursor's sequence. -/
def caughtUp : Cursor :=
  if store.isStale cursor.sequence then
    match store.newest? with
    -- What was sent of the old frame is forgotten here.
    | some newest => { cursor with sequence := newest, offset := 0 }
    | none => cursor
  else cursor

/-- What a stream has still to send of the cursor's frame. -/
def unsent? : Option Slice := (store.get? cursor.sequence).map (·.part.drop cursor.offset)

/-- What a still has to send of the cursor's frame. -/
def unsentPayload? : Option Slice := (store.get? cursor.sequence).map (·.image.drop cursor.offset)

/-- The cursor after `written` more bytes, and whether they completed the frame. A finished frame
is left for the newest one if that is another. -/
def advance (written : Nat) : Bool × Cursor :=
  match store.get? cursor.sequence with
  | none => (false, cursor)
  | some frame =>
    let offset := min (cursor.offset + written) frame.size
    let finished := offset == frame.size
    let next :=
      match store.newest? with
      | some newest =>
        if finished && cursor.sequence < newest then
          { cursor with sequence := newest, offset := 0 }
        else { cursor with offset }
      | none => { cursor with offset }
    -- A frame counts once, also if its cursor stays at its end for a while.
    (finished && 0 < written, next)

/-- Whether there is something to send or a newer frame to go to. -/
def hasPending : Bool :=
  match store.newest? with
  | none => false
  | some newest =>
    match store.get? cursor.sequence with
    | some frame => cursor.offset < frame.size || cursor.sequence < newest
    | none => true

end Cursor

end MotionJpeg
