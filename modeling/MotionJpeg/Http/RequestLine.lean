import MotionJpeg.Bytes.Ascii

/-!
# Request lines

`GET /stream/0?fps=5 HTTP/1.1` names a method, a path, a query, a protocol and its version. A line
is never refused: what it lacks stays empty, and a version that is missing marks the request as
malformed.
-/

namespace MotionJpeg.Http

/-- The parts of the first line of a request. -/
structure RequestLine where
  /-- Up to the first space or tab. -/
  method : Bytes := []
  /-- The target up to a `?`. -/
  path : Bytes := []
  /-- The target after the `?`. -/
  query : Bytes := []
  /-- The protocol up to a `/`. -/
  protocol : Bytes := []
  /-- What follows the `/`, if there is one. -/
  version : Option Bytes := none
  deriving DecidableEq, Repr

namespace RequestLine

/-- The byte `?` that ends a path. -/
def questionMark : UInt8 := 63

/-- The byte `/` between protocol and version. -/
def slash : UInt8 := 47

/-- Neither a space nor a tab. -/
def isTokenByte (c : UInt8) : Bool := !Ascii.isSpaceOrTab c

/-- Neither a space, nor a tab, nor a question mark. -/
def isPathByte (c : UInt8) : Bool := isTokenByte c && c != questionMark

/-- Completes a line with what follows the target. A protocol with no version is trimmed like a
header value. -/
def withProtocol (line : RequestLine) (rest : Bytes) : RequestLine :=
  let rest := rest.dropWhile Ascii.isSpaceOrTab
  match rest.dropWhile (· != slash) with
  | [] => { line with protocol := Ascii.trimBlanks rest }
  | _ :: version =>
    { line with
      protocol := rest.takeWhile (· != slash)
      version := some (Ascii.trimBlanks version) }

/-- Completes a line with what follows the `?`. -/
def withQuery (line : RequestLine) (rest : Bytes) : RequestLine :=
  let rest := rest.dropWhile Ascii.isSpaceOrTab
  let line := { line with query := rest.takeWhile isTokenByte }
  match rest.dropWhile isTokenByte with
  | [] => line
  | rest => line.withProtocol rest

/-- Completes a line with what follows the method. -/
def withTarget (line : RequestLine) (rest : Bytes) : RequestLine :=
  let rest := rest.dropWhile Ascii.isSpaceOrTab
  let line := { line with path := rest.takeWhile isPathByte }
  match rest.dropWhile isPathByte with
  | [] => line
  | c :: rest => if c = questionMark then line.withQuery rest else line.withProtocol (c :: rest)

/-- Reads a request line. -/
def parse (text : Bytes) : RequestLine :=
  let line : RequestLine := { method := text.takeWhile isTokenByte }
  match text.dropWhile isTokenByte with
  | [] => line
  | rest => line.withTarget rest

end RequestLine

end MotionJpeg.Http
