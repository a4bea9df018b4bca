import MotionJpeg.Bytes.Basic

/-!
# Slices

Frames, files and answers are sent in small pieces, from any place on. They lie in one block each,
and what is still to be sent of them is a slice: the block with the places where it begins and
ends. To shorten a slice moves a place and copies nothing.

* `Slice.toBytes` is the byte string that a slice stands for.
* `Slice.toBytes_take` and `Slice.toBytes_drop` say that shortening a slice shortens that string.
-/

namespace MotionJpeg

/-- A run of the bytes in a block. -/
structure Slice where
  /-- The bytes, shared by all slices of them. -/
  block : Array UInt8
  /-- The place of the first byte. -/
  start : Nat
  /-- The place after the last byte. -/
  stop : Nat
  /-- A slice does not end before its start. -/
  start_le_stop : start ≤ stop
  /-- A slice lies in its block. -/
  stop_le_size : stop ≤ block.size
  deriving DecidableEq, Repr

namespace Slice

/-- All of a block. -/
def ofArray (block : Array UInt8) : Slice := ⟨block, 0, block.size, Nat.zero_le _, Nat.le_refl _⟩

/-- A byte string in a block of its own. -/
def ofBytes (bytes : Bytes) : Slice := ofArray bytes.toArray

/-- No bytes. -/
def empty : Slice := ofArray #[]

instance : Inhabited Slice := ⟨empty⟩

variable (slice : Slice)

/-- The number of bytes in a slice. -/
def length : Nat := slice.stop - slice.start

/-- There is no byte in the slice. -/
def isEmpty : Bool := slice.length == 0

/-- The bytes of a slice. -/
def toBytes : Bytes := (slice.block.extract slice.start slice.stop).toList

/-- The first `count` bytes, or all if there are fewer. -/
def take (count : Nat) : Slice where
  block := slice.block
  start := slice.start
  stop := min (slice.start + count) slice.stop
  start_le_stop := by have := slice.start_le_stop; omega
  stop_le_size := by have := slice.stop_le_size; omega

/-- What follows the first `count` bytes. -/
def drop (count : Nat) : Slice where
  block := slice.block
  start := min (slice.start + count) slice.stop
  stop := slice.stop
  start_le_stop := Nat.min_le_right _ _
  stop_le_size := slice.stop_le_size

/-- The bytes of a slice are what its two places leave of the block. -/
theorem toBytes_eq : slice.toBytes = (slice.block.toList.take slice.stop).drop slice.start := by
  simp [toBytes, List.extract_eq_take_drop, List.drop_take]

/-- A slice has as many bytes as it tells. -/
@[simp]
theorem length_toBytes : slice.toBytes.length = slice.length := by
  have h := slice.stop_le_size
  simp [toBytes_eq, length, Nat.min_eq_left h]

/-- All of a block has the bytes of the block. -/
@[simp]
theorem toBytes_ofArray (block : Array UInt8) : (ofArray block).toBytes = block.toList := by
  simp [toBytes, ofArray]

/-- A byte string in a block of its own stays the same. -/
@[simp]
theorem toBytes_ofBytes (bytes : Bytes) : (ofBytes bytes).toBytes = bytes := by simp [ofBytes]

@[simp]
theorem toBytes_empty : empty.toBytes = [] := by simp [empty]

@[simp]
theorem length_ofBytes (bytes : Bytes) : (ofBytes bytes).length = bytes.length := by
  rw [← length_toBytes, toBytes_ofBytes]

/-- A slice is empty when its bytes are none. -/
theorem isEmpty_iff : slice.isEmpty = true ↔ slice.toBytes = [] := by
  rw [isEmpty, beq_iff_eq, ← length_toBytes, List.length_eq_zero_iff]

/-- The first bytes of a slice are the first of its bytes. -/
@[simp]
theorem toBytes_take (count : Nat) : (slice.take count).toBytes = slice.toBytes.take count := by
  simp only [toBytes_eq, take, List.take_drop, List.take_take]

/-- What follows the first bytes of a slice is what follows the first of its bytes. -/
@[simp]
theorem toBytes_drop (count : Nat) : (slice.drop count).toBytes = slice.toBytes.drop count := by
  have h := slice.stop_le_size
  simp only [toBytes_eq, drop, List.drop_drop, List.drop_eq_drop_iff, List.length_take,
    Array.length_toList]
  omega

end Slice

end MotionJpeg
