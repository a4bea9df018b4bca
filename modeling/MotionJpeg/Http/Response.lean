import MotionJpeg.Bytes.Basic

/-!
# Response heads

A head is a status line, three lines that every response has, and the headers of its own kind. The
blank line ends it.
-/

namespace MotionJpeg.Http

/-- The protocol version in a status line. -/
inductive Version where
  | http10
  | http11
  deriving DecidableEq, Repr

/-- The text of a version. -/
def Version.text : Version → String
  | http10 => "HTTP/1.0"
  | http11 => "HTTP/1.1"

/-- How a request was met. -/
inductive Status where
  | ok
  | badRequest
  | notAuthorized
  | notFound
  deriving DecidableEq, Repr

/-- The number of a status. -/
def Status.code : Status → Nat
  | ok => 200
  | badRequest => 400
  | notAuthorized => 401
  | notFound => 404

/-- The words of a status. -/
def Status.reason : Status → String
  | ok => "OK"
  | badRequest => "BAD REQUEST"
  | notAuthorized => "NOT AUTHORIZED"
  | notFound => "NOT FOUND"

/-- A header line. -/
structure Header where
  name : Bytes
  value : Bytes
  deriving DecidableEq, Repr

/-- A header whose name and value are texts. -/
def Header.ofStrings (name value : String) : Header := ⟨.ofString name, .ofString value⟩

/-- The name, a colon, a space and the value. -/
def Header.line (header : Header) : Bytes := header.name ++ .ofString ": " ++ header.value

/-- The head of a response. -/
structure ResponseHead where
  version : Version
  status : Status
  /-- The connection stays open for another request. -/
  keepAlive : Bool := false
  /-- The headers after the common ones, in order. -/
  headers : List Header := []
  deriving DecidableEq, Repr

namespace ResponseHead

/-- The name that the server gives itself. -/
def serverName : String := "hawkeye"

/-- The version, the number and the words of the status. -/
def statusLine (head : ResponseHead) : Bytes :=
  .ofString (head.version.text ++ " " ++ toString head.status.code ++ " " ++ head.status.reason)

/-- The headers that every response has. -/
def commonHeaders (head : ResponseHead) : List Header := [
  .ofStrings "Server" serverName,
  .ofStrings "Connection" (if head.keepAlive then "keep-alive" else "close"),
  .ofStrings "Access-Control-Allow-Origin" "*"]

/-- The lines of a head without their ends. -/
def lines (head : ResponseHead) : List Bytes :=
  head.statusLine :: (head.commonHeaders ++ head.headers).map Header.line

/-- The head, with the blank line that ends it. -/
def render (head : ResponseHead) : Bytes :=
  head.lines.flatMap (· ++ Bytes.crlf) ++ Bytes.crlf

/-- The head and a body after it. -/
def withBody (head : ResponseHead) (body : Bytes) : Bytes := head.render ++ body

end ResponseHead

end MotionJpeg.Http
