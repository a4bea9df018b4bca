import MotionJpeg.Capture.Channel
import MotionJpeg.Capture.FixedImage
import MotionJpeg.Capture.ImageLoop

/-!
# Capture sources

A source yields one JPEG at every capture, or tells why it has none.
-/

namespace MotionJpeg

/-- A list of captures prepared beforehand. -/
structure Script where
  /-- The frames to come; nothing is ready where there is none, and after the end. -/
  frames : List (Option Bytes)
  width : Nat
  height : Nat
  deriving DecidableEq, Repr

/-- The next frame of a script. -/
def Script.capture (script : Script) : Except CaptureFailure Bytes × Script :=
  match script.frames with
  | some frame :: rest => (.ok frame, { script with frames := rest })
  | none :: rest => (.error .noFrame, { script with frames := rest })
  | [] => (.error .noFrame, script)

/-- A source of any other kind, told by what its captures give. -/
structure Recording where
  /-- Why there is no frame, or the frame, at every capture to come. Nothing is ready after the
  end. -/
  results : List (CaptureFailure ⊕ Bytes)
  width : Nat
  height : Nat
  deriving DecidableEq, Repr

/-- The next result of a recording. -/
def Recording.capture (recording : Recording) : Except CaptureFailure Bytes × Recording :=
  match recording.results with
  | .inr frame :: rest => (.ok frame, { recording with results := rest })
  | .inl failure :: rest => (.error failure, { recording with results := rest })
  | [] => (.error .noFrame, recording)

/-- A source of frames. -/
inductive Source where
  | image (source : FixedImage)
  | images (source : ImageLoop)
  | channel (source : Channel)
  | script (source : Script)
  | recording (source : Recording)
  deriving DecidableEq, Repr

namespace Source

/-- The next frame of a source, or why there is none, and the source after it. -/
def capture : Source → Except CaptureFailure Bytes × Source
  | image source => (.ok source.image, image source)
  | images source => source.capture.map id images
  | channel source => source.capture.map id channel
  | script source => source.capture.map id script
  | recording source => source.capture.map id recording

/-- The width of the frames in pixels, zero if it is not known. -/
def width : Source → Nat
  | image source => source.width
  | images source => source.width
  | channel source => source.width
  | script source => source.width
  | recording source => source.width

/-- The height of the frames in pixels, zero if it is not known. -/
def height : Source → Nat
  | image source => source.height
  | images source => source.height
  | channel source => source.height
  | script source => source.height
  | recording source => source.height

/-- What a source is called. -/
def name : Source → String
  | image _ => "still"
  | images source => Bytes.toText source.directory
  | channel _ => "channel"
  | script _ => "capture"
  | recording _ => "capture"

end Source

end MotionJpeg
