import MotionJpeg.Http.Response
import MotionJpeg.Multipart

/-!
# Replies

The responses that the server gives. Refusals and the stream description are whole responses; a
stream, a still and a static file are heads whose body follows piece by piece.
-/

namespace MotionJpeg.Http.Reply

/-- The headers that keep a response out of caches, for this `Cache-Control` value. -/
def uncached (cacheControl : String) : List Header := [
  .ofStrings "Cache-Control" cacheControl,
  .ofStrings "Pragma" "no-cache",
  .ofStrings "Expires" "Mon, 1 Jan 2000 00:00:00 GMT"]

/-- The `Cache-Control` value of streams and of their description. -/
def revalidate : String :=
  "no-store, no-cache, must-revalidate, pre-check=0, post-check=0, max-age=0"

/-- The `Cache-Control` value of stills. -/
def noCache : String := "no-store, no-cache, pre-check=0, post-check=0, max-age=0"

/-- The header of a body that is a page. -/
def pageType : Header := .ofStrings "Content-Type" "text/html; charset=utf-8"

/-- The head of a stream and the boundary that opens its body. -/
def streamHeader : Bytes :=
  ResponseHead.withBody
    { version := .http10
      status := .ok
      headers :=
        ⟨.ofString "Content-Type",
          .ofString "multipart/x-mixed-replace;boundary=" ++ Multipart.boundary⟩ ::
        uncached revalidate }
    Multipart.opening

/-- The head of a still. -/
def stillHeader : Bytes :=
  ResponseHead.render
    { version := .http10
      status := .ok
      headers := .ofStrings "Content-Type" "image/jpeg" :: uncached noCache }

/-- The description of the streams: how many there are and the size of their frames. -/
def streamInfo (count width height : Nat) : Bytes :=
  ResponseHead.withBody
    { version := .http10
      status := .ok
      headers := .ofStrings "Content-Type" "application/json" :: uncached revalidate }
    (.ofString ("\x7b\"stream_count\": " ++ toString count ++ ", \"width\": " ++ toString width ++
      ", \"height\": " ++ toString height ++ "\x7d"))

/-- The head of a static file. -/
def fileHeader (length : Nat) (mediaType : String) : Bytes :=
  ResponseHead.render
    { version := .http11
      status := .ok
      keepAlive := true
      headers := [
        ⟨.ofString "Content-Length", .ofNat length⟩,
        .ofStrings "Content-Type" mediaType] }

/-- The answer to a malformed request. -/
def badRequest : Bytes :=
  ResponseHead.withBody { version := .http11, status := .badRequest, headers := [pageType] }
    (.ofString "Bad request")

/-- The answer to a request without the right credentials. -/
def authRequired : Bytes :=
  ResponseHead.withBody
    { version := .http11
      status := .notAuthorized
      headers := [.ofStrings "WWW-Authenticate" "Basic realm=\"Hawkeye\"", pageType] }
    (.ofString "Password required.")

/-- The answer to a request for something that is not there. -/
def notFound : Bytes :=
  ResponseHead.withBody { version := .http11, status := .notFound, headers := [pageType] }
    (.ofString "Could not find resource at this URL.")

end MotionJpeg.Http.Reply
