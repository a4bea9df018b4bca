import MotionJpeg.Bytes.Ascii
import MotionJpeg.Bytes.Utf8
import MotionJpeg.Capture.Jpeg
import MotionJpeg.Failure
import MotionJpeg.Files.Access

/-!
# A directory of images in a loop

The source loads the JPEG files of a directory in the order of their names and gives them one
after the other, again and again.
-/

namespace MotionJpeg

/-- A source that repeats some images in turn. -/
structure ImageLoop where
  /-- The directory that the images come from, as it was named. -/
  directory : Path
  /-- The images in order. -/
  frames : List Bytes
  /-- The index of the next one. -/
  next : Nat
  /-- The width of the first image in pixels, zero if it does not tell. -/
  width : Nat
  /-- The height of the first image in pixels, zero if it does not tell. -/
  height : Nat
  deriving DecidableEq, Repr

namespace ImageLoop

/-- The order of names, byte by byte. -/
def precedes : Name → Name → Bool
  | [], _ => true
  | _ :: _, [] => false
  | a :: s, b :: t => if a = b then precedes s t else a < b

/-- The extension of a name, the text after its last dot. A dot at the front starts none. -/
def extension? (name : Name) : Option Bytes :=
  match name with
  | [] => none
  | _ :: rest =>
    if (46 : UInt8) ∈ rest then some (rest.reverse.takeWhile (· != 46)).reverse else none

/-- The name ends in `.jpg` or `.jpeg`, in any letter case. -/
def hasJpegName (name : Name) : Bool :=
  match extension? name with
  | some extension =>
    Ascii.equalsIgnoreCase extension (.ofString "jpg") ||
      Ascii.equalsIgnoreCase extension (.ofString "jpeg")
  | none => false

/-- The path of a name in a directory. -/
def pathIn (directory : Path) (name : Name) : Path :=
  if directory.getLast? = some Path.slash then directory ++ name
  else directory ++ Path.slash :: name

/-- The names of the image files in a directory, in order. -/
def imageNames (files : FileSystem) (directory : Path) : Except FileFault (List Name) := do
  let names ← files.namesIn directory
  let isImage (name : Name) : Bool := hasJpegName name && files.isFile (pathIn directory name)
  return (names.filter isImage).mergeSort precedes

/-- Loads the images of a directory. Files that do not begin like a JPEG are left out, and one
image at least has to remain. -/
def load (files : FileSystem) (directory : Path) : Except CaptureFailure ImageLoop := do
  let ofFault {α : Type} : Except FileFault α → Except CaptureFailure α :=
    Except.mapError fun fault => .io fault.message
  let names ← ofFault (imageNames files directory)
  let contents ← ofFault (names.mapM fun name => files.readFile (pathIn directory name))
  match contents.filter Jpeg.isJpeg with
  | [] => throw (.noImages (Bytes.toText directory))
  | first :: others =>
    let (width, height) := (Jpeg.dimensions? first).getD (0, 0)
    return { directory, frames := first :: others, next := 0, width, height }

/-- The next image, and the source after it. -/
def capture (source : ImageLoop) : Except CaptureFailure Bytes × ImageLoop :=
  match source.frames[source.next]? with
  | some frame =>
    (.ok frame, { source with next := (source.next + 1) % source.frames.length })
  | none => (.error .noFrame, source)

end ImageLoop

end MotionJpeg
