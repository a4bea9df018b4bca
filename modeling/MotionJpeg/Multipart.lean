import MotionJpeg.Bytes.Basic

/-!
# Multipart framing

A stream is one response whose body is a sequence of JPEG parts. Every part is a part header, the
image and the boundary that closes it, so that a viewer can cut the body at the boundaries.
-/

namespace MotionJpeg.Multipart

/-- The token between two parts. -/
def boundary : Bytes := .ofString "aEjlw7DR5wcqrxG4p12AE0jGIZPlUHyi"

/-- What stands before the image of a part. -/
def partHeader : Bytes := .ofString "Content-Type: image/jpeg\x0d\n\x0d\n"

/-- The boundary that opens the body. -/
def opening : Bytes := .ofString "--" ++ boundary ++ Bytes.crlf

/-- What stands after the image of a part: the boundary on a line of its own. -/
def partFooter : Bytes := Bytes.crlf ++ opening

/-- The part of a body that carries a payload. -/
def part (payload : Bytes) : Bytes := partHeader ++ payload ++ partFooter

end MotionJpeg.Multipart
