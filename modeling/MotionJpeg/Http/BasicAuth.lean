import MotionJpeg.Base64
import MotionJpeg.Bytes.Ascii

/-!
# Basic authorization

A server that asks for `user:password` keeps the Base64 form of it, its secret. A client is let in
when the token after the word `Basic` is that secret; the token is never decoded.
-/

namespace MotionJpeg.Http.BasicAuth

/-- The token that a client with these credentials sends. -/
def secret (credentials : String) : Bytes := Base64.encode (.ofString credentials)

/-- The word before the token. -/
def scheme : Bytes := .ofString "Basic"

/-- The token of an `Authorization` value with the scheme `Basic`, in any letter case. -/
def token? (authorization : Bytes) : Option Bytes :=
  if Ascii.equalsIgnoreCase (authorization.take scheme.length) scheme then
    some ((authorization.drop scheme.length).dropWhile Ascii.isSpaceOrTab)
  else none

/-- Whether a client is let in. Without a secret every client is. -/
def permits (secret authorization : Option Bytes) : Bool :=
  match secret with
  | none => true
  | some secret => authorization.bind token? == some secret

end MotionJpeg.Http.BasicAuth
