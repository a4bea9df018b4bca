/-!
# Byte strings

Everything that crosses a socket or lies in a file is a list of bytes. Text that an operator
writes, and text meant to be read, is a `String`; the two meet only here.

* `Bytes.ofString` is the UTF-8 form of a text.
* `Bytes.search?` finds a run of bytes, `Bytes.splitOn` cuts at a separator byte and
  `Bytes.crlfLines` cuts at line ends.
-/

namespace MotionJpeg

/-- A string of bytes. -/
abbrev Bytes := List UInt8

namespace Bytes

/-- The UTF-8 bytes of a text. -/
def ofString (s : String) : Bytes := s.toUTF8.data.toList

/-- The text that a byte string is the UTF-8 form of, if it is one. -/
def toText? (bytes : Bytes) : Option String := String.fromUTF8? ⟨bytes.toArray⟩

/-- Carriage return and line feed, the end of a line on the wire. -/
def crlf : Bytes := [13, 10]

/-- The rest of `bytes` after `start`, if it begins so. -/
def after? (start bytes : Bytes) : Option Bytes :=
  if start.isPrefixOf bytes then some (bytes.drop start.length) else none

/-- Where `pattern` occurs first. -/
def search? (pattern bytes : Bytes) : Option Nat :=
  go 0 bytes
where
  /-- Goes on at a suffix with `passed` bytes before it. -/
  go (passed : Nat) : Bytes → Option Nat
    | [] => if pattern.isEmpty then some passed else none
    | c :: rest => if pattern.isPrefixOf (c :: rest) then some passed else go (passed + 1) rest

/-- The pieces of a byte string between the occurrences of `separator`, one more than there are
separators. -/
def splitOn (separator : UInt8) (bytes : Bytes) : List Bytes :=
  go [] bytes
where
  /-- Continues a piece whose bytes so far are `piece`, last first. -/
  go (piece : Bytes) : Bytes → List Bytes
    | [] => [piece.reverse]
    | c :: rest => if c = separator then piece.reverse :: go [] rest else go (c :: piece) rest

/-- The lines of a text that is cut at every CR LF, one more than there are line ends. -/
def crlfLines (text : Bytes) : List Bytes :=
  go [] text
where
  /-- Continues a line whose bytes so far are `line`, last first. -/
  go (line : Bytes) : Bytes → List Bytes
    | [] => [line.reverse]
    | c :: rest =>
      if c = 10 ∧ line.head? = some 13 then line.tail.reverse :: go [] rest
      else go (c :: line) rest

/-- The decimal digits of a number. -/
def ofNat (n : Nat) : Bytes := ofString (toString n)

/-- Two bytes as a big-endian number. -/
def pairToNat (high low : UInt8) : Nat := high.toNat * 256 + low.toNat

end Bytes

end MotionJpeg
