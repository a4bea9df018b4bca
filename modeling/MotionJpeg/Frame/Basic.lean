import MotionJpeg.Bytes.Slice
import MotionJpeg.Multipart

/-!
# Frames

A frame is one JPEG with the number under which it was stored. What a stream sends of it is a
whole part of the multipart body. The part lies in one block, of which a still sends the middle.

* `Frame.part` is what a stream sends, `Frame.image` what a still sends.
* `Frame.toBytes_part` and `Frame.toBytes_image` say which bytes these are.
-/

namespace MotionJpeg

/-- A stored JPEG. -/
structure Frame where
  /-- The number of the frame among those its store accepted, from zero. -/
  sequence : Nat
  /-- The JPEG. -/
  payload : Bytes
  /-- The part of a stream that carries the JPEG, in one block. -/
  block : Array UInt8 := (Multipart.part payload).toArray
  /-- A stream sends the payload as a part. -/
  block_eq : block = (Multipart.part payload).toArray := by rfl
  deriving DecidableEq, Repr

namespace Frame

/-- The size of a part whose payload has this length. -/
def partSize (payloadSize : Nat) : Nat :=
  Multipart.partHeader.length + payloadSize + Multipart.partFooter.length

variable (frame : Frame)

/-- The bytes that a stream sends of a frame. -/
def data : Bytes := Multipart.part frame.payload

/-- The number of bytes that a stream sends of a frame. -/
def size : Nat := frame.block.size

/-- What a stream sends of a frame. -/
def part : Slice := .ofArray frame.block

/-- What a still sends of a frame, the part without its header and its footer. -/
def image : Slice :=
  (frame.part.drop Multipart.partHeader.length).take
    (frame.size - Multipart.partHeader.length - Multipart.partFooter.length)

theorem length_part (payload : Bytes) :
    (Multipart.part payload).length = partSize payload.length := by
  simp [Multipart.part, partSize, Nat.add_assoc]

/-- Header and footer alone make a part longer than nothing. -/
theorem partSize_pos (payloadSize : Nat) : 0 < partSize payloadSize := by
  have h : 0 < Multipart.partHeader.length := by decide
  unfold partSize
  omega

theorem size_eq : frame.size = partSize frame.payload.length := by
  rw [size, frame.block_eq, List.size_toArray, length_part]

/-- A stream sends the payload between a header and a footer. -/
theorem toBytes_part : frame.part.toBytes = frame.data := by
  rw [part, Slice.toBytes_ofArray, frame.block_eq, data]

/-- A still sends the payload alone. -/
theorem toBytes_image : frame.image.toBytes = frame.payload := by
  have h : partSize frame.payload.length - Multipart.partHeader.length -
      Multipart.partFooter.length = frame.payload.length := by
    unfold partSize
    omega
  rw [image, Slice.toBytes_take, Slice.toBytes_drop, toBytes_part, size_eq, h, data]
  simp [Multipart.part]

end Frame

end MotionJpeg
