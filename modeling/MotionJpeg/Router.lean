import MotionJpeg.Bytes.Utf8
import MotionJpeg.Files.Access
import MotionJpeg.Files.Canonical
import MotionJpeg.Http.BasicAuth
import MotionJpeg.Http.MediaType
import MotionJpeg.Http.Request
import MotionJpeg.Route

/-!
# Routing

A router decides from the request alone, from its two settings and from the static files. It
binds nothing, so the same request gets the same route as long as the files stay as they are.

* `Router.route` is the decision.
* `Router.sourceIndex?` reads the number after `/stream/` and `/still/`.
* `Router.staticRoute` looks for a file below the static root.
-/

namespace MotionJpeg

/-- What routing depends on besides the request. -/
structure Router where
  /-- The directory of static files, with nothing left to resolve in its path. -/
  staticRoot : Option Path := none
  /-- The token that clients have to send. -/
  secret : Option Bytes := none
  deriving DecidableEq, Repr

namespace Router

/-- The paths that are served to everyone. -/
def publicPaths : Bytes := .ofString "/img/"

/-- The path of the stream description. -/
def streamInfoPath : Bytes := .ofString "/stream/info"

/-- The paths of the streams. -/
def streamPaths : Bytes := .ofString "/stream/"

/-- The paths of the stills. -/
def stillPaths : Bytes := .ofString "/still/"

/-- The file that stands for its directory. -/
def indexFile : Bytes := .ofString "index.html"

/-- Whether a path needs no credentials: it begins like the public ones and no `..` leads out of
them again. -/
def isPublic (path : Bytes) : Bool :=
  match publicPaths.after? path with
  | some rest => !(Bytes.splitOn Path.slash rest).contains Path.dotDot
  | none => false

/-- The source that a text names, of `count` sources. After blanks and a sign the leading digits
count, none of them meaning zero; whatever follows them is ignored. -/
def sourceIndex? (text : Bytes) (count : Nat) : Option Nat :=
  let text := text.dropWhile Ascii.isSpaceOrTab
  let isNegative := text.head? == some 45
  let digits := if isNegative || text.head? == some 43 then text.tail else text
  match Ascii.numberBelow? count (digits.takeWhile Ascii.isDigit) with
  | some index => if isNegative && index != 0 then none else some index
  | none => none

/-- The media type of what lies at a location. -/
def mediaTypeAt (location : Location) : String :=
  match location.getLast? with
  | some name => if Utf8.isValid name then Http.MediaType.ofName name else Http.MediaType.unknown
  | none => Http.MediaType.unknown

/-- The route to a file below `root`. Where the path leads is asked first, then whether that is
within the root. -/
def staticRoute (files : FileSystem) (root : Path) (path : Bytes) : Route :=
  -- A path with a slash at its end asks for the index of a directory.
  let path := root ++ path ++ if path.getLast? = some Path.slash then indexFile else []
  match files.canonicalLocation path with
  | .error _ => .notFound
  | .ok location =>
    -- Links and `..` are resolved by now, so nothing outside is reached through them.
    if location.isWithin root then
      match files.stat location.path with
      | .ok (_, .file number) =>
        .staticFile location.path (files.content number).size (mediaTypeAt location)
      | _ => .notFound
    else .notFound

/-- The route to a numbered source. -/
def sourceRoute (route : Nat → Route) (text : Bytes) (count : Nat) : Route :=
  match sourceIndex? text count with
  | some source => route source
  | none => .notFound

variable (router : Router)

/-- Some requests need credentials. -/
def requiresAuth : Bool := router.secret.isSome

/-- The route for a request that was let in. -/
def resource (files : FileSystem) (path : Bytes) (sources : Nat) : Route :=
  match streamPaths.after? path with
  | some rest => if path = streamInfoPath then .streamInfo else sourceRoute .stream rest sources
  | none =>
    match stillPaths.after? path with
    | some rest => sourceRoute .still rest sources
    | none =>
      match router.staticRoot with
      | some root => staticRoute files root path
      | none => .notFound

/-- The route for a request to a server with this many sources. -/
def route (files : FileSystem) (request : Http.Request) (sources : Nat) : Route :=
  if !request.isWellFormed || request.method != .ofString "GET" ||
      request.protocol != .ofString "HTTP" then .badRequest
  -- Whether there is such a source or file is not told to those who may not ask.
  else if !isPublic request.path &&
      !Http.BasicAuth.permits router.secret request.authorization then .authRequired
  else router.resource files request.path sources

end Router

end MotionJpeg
