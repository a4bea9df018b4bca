import MotionJpeg.Files.Path

/-!
# Routes

A route says how a request is answered, before anything of the answer is prepared.
-/

namespace MotionJpeg

/-- The answer to a request. -/
inductive Route where
  /-- The request line is malformed, or its method or protocol is another one. -/
  | badRequest
  /-- The right credentials are missing. -/
  | authRequired
  /-- There is no such source or file. -/
  | notFound
  /-- The description of the streams. -/
  | streamInfo
  /-- The frames of a source as they come. -/
  | stream (source : Nat)
  /-- One frame of a source. -/
  | still (source : Nat)
  /-- A file below the static root. -/
  | staticFile (path : Path) (length : Nat) (mediaType : String)
  deriving DecidableEq, Repr

/-- The kind of a route. -/
inductive RouteKind where
  | badRequest
  | authRequired
  | notFound
  | streamInfo
  | stream
  | still
  | staticFile
  deriving DecidableEq, Repr

/-- A route without its data. -/
def Route.kind : Route → RouteKind
  | badRequest => .badRequest
  | authRequired => .authRequired
  | notFound => .notFound
  | streamInfo => .streamInfo
  | stream _ => .stream
  | still _ => .still
  | staticFile .. => .staticFile

/-- The whole answer is settled when the route is taken. -/
def RouteKind.isCanned : RouteKind → Bool
  | badRequest | authRequired | notFound | streamInfo => true
  | stream | still | staticFile => false

end MotionJpeg
