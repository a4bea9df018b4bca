/-!
# Statistics

Counters of a client and of a capture source.
-/

namespace MotionJpeg

/-- What was done for a client. -/
structure SessionStats where
  bytesReceived : Nat := 0
  bytesSent : Nat := 0
  /-- The frames delivered whole. -/
  framesSent : Nat := 0
  /-- The requests answered in full. -/
  requestsServed : Nat := 0
  deriving DecidableEq, Repr, Inhabited

namespace SessionStats

/-- The largest number that a rate is computed from. -/
def maxCount : Nat := UInt64.size - 1

/-- The average rate of the bytes sent in bits per second, after this many milliseconds. Before
the first one has passed it is zero. -/
def bitrate (stats : SessionStats) (elapsed : Nat) : Nat :=
  min (stats.bytesSent * 8000) maxCount / elapsed

end SessionStats

/-- What came of the captures of a source. -/
structure CaptureStats where
  /-- The frames that were stored. -/
  captured : Nat := 0
  /-- The captures that failed or whose frame was refused. -/
  dropped : Nat := 0
  /-- The size of the last frame that was stored. -/
  lastSize : Nat := 0
  deriving DecidableEq, Repr, Inhabited

namespace CaptureStats

/-- A frame of this size was stored. -/
def recordFrame (stats : CaptureStats) (size : Nat) : CaptureStats :=
  { stats with captured := stats.captured + 1, lastSize := size }

/-- A capture failed or its frame was refused. -/
def recordDrop (stats : CaptureStats) : CaptureStats :=
  { stats with dropped := stats.dropped + 1 }

end CaptureStats

end MotionJpeg
