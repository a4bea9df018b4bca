import MotionJpeg.Bytes.Ascii

/-!
# Media types

The media type of a file is told from its extension, the text after the last dot of its name.
-/

namespace MotionJpeg.Http.MediaType

/-- The type of a file whose extension is not known. -/
def unknown : String := "application/octet"

/-- The known extensions, in lower case, and their types. -/
def table : List (String × String) := [
  ("html", "text/html"),
  ("htm", "text/html"),
  ("css", "text/css"),
  ("js", "application/javascript"),
  ("json", "application/json"),
  ("txt", "text/plain"),
  ("xml", "application/xml"),
  ("png", "image/png"),
  ("jpg", "image/jpeg"),
  ("jpeg", "image/jpeg"),
  ("gif", "image/gif"),
  ("ico", "image/x-icon"),
  ("svg", "image/svg+xml"),
  ("webp", "image/webp"),
  ("mp4", "video/mp4"),
  ("webm", "video/webm"),
  ("pdf", "application/pdf"),
  ("woff", "font/woff"),
  ("woff2", "font/woff2"),
  ("ttf", "font/ttf"),
  ("wasm", "application/wasm")]

/-- The text after the last dot, if there is a dot. -/
def extension? (name : Bytes) : Option Bytes :=
  if (46 : UInt8) ∈ name then some (name.reverse.takeWhile (· != 46)).reverse else none

/-- The media type of a file with this name. -/
def ofName (name : Bytes) : String :=
  match extension? name with
  | none => unknown
  | some extension =>
    match table.find? fun known => Ascii.equalsIgnoreCase (.ofString known.1) extension with
    | some known => known.2
    | none => unknown

end MotionJpeg.Http.MediaType
