import MotionJpeg.Capture.Jpeg
import MotionJpeg.Failure

/-!
# A source with one image

The same JPEG at every capture.
-/

namespace MotionJpeg

/-- A source that repeats an image. -/
structure FixedImage where
  image : Bytes
  /-- The width in pixels, zero if the image does not tell. -/
  width : Nat
  /-- The height in pixels, zero if the image does not tell. -/
  height : Nat
  deriving DecidableEq, Repr

/-- A source that repeats this image, which has to be a JPEG. -/
def FixedImage.ofJpeg (image : Bytes) : Except CaptureFailure FixedImage :=
  if Jpeg.isJpeg image then
    let (width, height) := (Jpeg.dimensions? image).getD (0, 0)
    .ok { image, width, height }
  else .error .notJpeg

end MotionJpeg
