import MotionJpeg.Bytes.Utf8
import MotionJpeg.Http.Head
import MotionJpeg.Http.RequestLine

/-!
# Requests

The part of a request that routing needs: its first line and the values of the headers `Host` and
`Authorization`.
-/

namespace MotionJpeg.Http

/-- A request head. -/
structure Request extends RequestLine where
  /-- The value of the first `Host` header. -/
  host : Option Bytes := none
  /-- The value of the first `Authorization` header. -/
  authorization : Option Bytes := none
  deriving DecidableEq, Repr

/-- The trimmed value of a header line with this name, the colon included, in any letter case. -/
def headerValue? (name line : Bytes) : Option Bytes :=
  if Ascii.equalsIgnoreCase (line.take name.length) name then
    some (Ascii.trimBlanks (line.drop name.length))
  else none

namespace Request

/-- Reads the logical lines of a head; of two headers with one name the first counts. -/
def ofLines : List Bytes → Request
  | [] => {}
  | line :: headers =>
    { RequestLine.parse line with
      host := headers.findSome? (headerValue? (.ofString "host:"))
      authorization := headers.findSome? (headerValue? (.ofString "authorization:")) }

/-- Reads the head at the front of `data`. One that is not UTF-8 is an empty request. -/
def parse (data : Bytes) : Request :=
  let head := headOf data
  if Utf8.isValid head then ofLines (logicalLines head) else {}

/-- The first line named a protocol version. -/
def isWellFormed (request : Request) : Bool := request.version.isSome

/-- The path, with `?` and the query if there is a query. -/
def target (request : Request) : Bytes :=
  if request.query.isEmpty then request.path
  else request.path ++ RequestLine.questionMark :: request.query

end Request

end MotionJpeg.Http
