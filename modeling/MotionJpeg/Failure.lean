/-!
# Failures

What an operator is told when the server cannot start or a source has no frame. Clients never see
these: what goes wrong for a client becomes a response.
-/

namespace MotionJpeg

/-- The kind of an I/O error. -/
inductive IoKind where
  /-- What was read from is gone. -/
  | brokenPipe
  /-- Any other kind, which only the reason tells. -/
  | other
  deriving DecidableEq, Repr

/-- An I/O error. -/
structure IoFault where
  reason : String
  kind : IoKind := .other
  deriving DecidableEq, Repr

instance : Coe String IoFault := ⟨fun reason => { reason }⟩

/-- Why there is no frame. -/
inductive CaptureFailure where
  /-- Nothing was ready. -/
  | noFrame
  /-- A directory holds no usable image. -/
  | noImages (directory : String)
  /-- An image does not begin like a JPEG. -/
  | notJpeg
  /-- Reading from the source failed. -/
  | io (fault : IoFault)
  deriving DecidableEq, Repr

namespace CaptureFailure

/-- The words for a failure. -/
def message : CaptureFailure → String
  | noFrame => "Could not capture frame"
  | noImages directory => "No JPEG images found in " ++ directory
  | notJpeg => "Frame is not a JPEG image"
  | io fault => fault.reason

/-- The words for what is behind a failure. -/
def cause? : CaptureFailure → Option String
  | io fault => some fault.reason
  | _ => none

end CaptureFailure

/-- Why TLS could not be set up. -/
inductive TlsFailure where
  /-- The certificate file cannot be read or holds none. -/
  | certificate (reason : String)
  /-- The key file cannot be read or holds none. -/
  | privateKey (reason : String)
  /-- The TLS engine refuses the material or a message of a peer. -/
  | engine (reason : String)
  /-- A peer took too long. -/
  | handshakeTimeout
  /-- The connection failed before it was secured. -/
  | handshakeIo (reason : String)
  deriving DecidableEq, Repr

namespace TlsFailure

/-- What the TLS engine says for a reason. -/
def engineMessage (reason : String) : String := "unexpected error: " ++ reason

/-- The words for a failure. -/
def message : TlsFailure → String
  | certificate reason => "Could not load public certificate: " ++ reason
  | privateKey reason => "Could not load private key: " ++ reason
  | engine reason => engineMessage reason
  | handshakeTimeout => "Handshake timed out"
  | handshakeIo reason => "Handshake I/O error: " ++ reason

/-- The words for what is behind a failure. -/
def cause? : TlsFailure → Option String
  | engine reason => some (engineMessage reason)
  | handshakeIo reason => some reason
  | _ => none

end TlsFailure

/-- Why the server cannot go on. -/
inductive Failure where
  | io (reason : String)
  | tls (failure : TlsFailure)
  | capture (failure : CaptureFailure)
  /-- A setting is wrong. -/
  | config (reason : String)
  /-- There is no address to listen on. -/
  | bind (reason : String)
  deriving DecidableEq, Repr

namespace Failure

/-- The words for a failure. -/
def message : Failure → String
  | io reason => "I/O error: " ++ reason
  | tls failure => "TLS error: " ++ failure.message
  | capture failure => "Capture error: " ++ failure.message
  | config reason => "Configuration error: " ++ reason
  | bind reason => "Could not bind to socket: " ++ reason

/-- The words for what is behind a failure. -/
def cause? : Failure → Option String
  | io reason => some reason
  | tls failure => some failure.message
  | capture failure => some failure.message
  | config _ | bind _ => none

end Failure

end MotionJpeg
