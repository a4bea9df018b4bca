import MotionJpeg.Bytes.Utf8
import MotionJpeg.Files.Access
import MotionJpeg.Files.Canonical
import MotionJpeg.Http.BasicAuth

/-!
# Configuration

The settings of a server, and the check that they can be met before it starts.

* `Config.check` finds the first setting that cannot be met, and resolves the static root.
-/

namespace MotionJpeg

/-- The files that make a server speak TLS. -/
structure TlsFiles where
  /-- The certificates, in PEM form. -/
  certificate : Path
  /-- The private key, in PEM form. -/
  key : Path
  deriving DecidableEq, Repr

/-- The settings of a server. Times are in milliseconds. -/
structure Config where
  /-- The name or address to listen on, empty for every address. -/
  host : String := ""
  port : Nat := 8000
  staticRoot : Option Path := none
  /-- The `user:password` that clients have to send. -/
  credentials : Option String := none
  tls : Option TlsFiles := none
  /-- How many frames of a source are kept. -/
  frameBufferLength : Nat := 8
  /-- The largest frame that is kept. -/
  maxFrameSize : Nat := 1024 * 1024
  /-- How long to wait for something to happen. -/
  pollTimeout : Nat := 10
  /-- How long a client may be idle. -/
  keepAliveTimeout : Nat := 30000
  /-- How long a client may take to secure its connection. -/
  tlsHandshakeTimeout : Nat := 5000
  fps : Nat := 5
  /-- The width of frames, for sources that do not tell it. -/
  width : Nat := 640
  /-- The height of frames, for sources that do not tell it. -/
  height : Nat := 480
  maxRequestHeaderSize : Nat := 4096
  /-- The most bytes of a static file that are written at once. -/
  writeChunkSize : Nat := 16384
  /-- Small pieces are sent without delay. -/
  tcpNodelay : Bool := true
  deriving DecidableEq, Repr, Inhabited

namespace Config

/-- The slowest rate of captures. -/
def minFps : Nat := 1

/-- The fastest rate of captures. -/
def maxFps : Nat := 50

/-- The nearest rate that is allowed. -/
def clampFps (fps : Nat) : Nat := min (max fps minFps) maxFps

variable (config : Config)

/-- Keeps this many frames, one at least. -/
def withFrameBufferLength (length : Nat) : Config :=
  { config with frameBufferLength := max length 1 }

/-- Captures at the nearest rate that is allowed. -/
def withFps (fps : Nat) : Config := { config with fps := clampFps fps }

/-- Accepts heads up to this size, which leaves room for a blank line at least. -/
def withMaxRequestHeaderSize (size : Nat) : Config :=
  { config with maxRequestHeaderSize := max size 4 }

/-- The time between two captures in nanoseconds. -/
def frameInterval : Nat := 1000000000 / clampFps config.fps

/-- The token that clients have to send. -/
def secret : Option Bytes := config.credentials.map Http.BasicAuth.secret

/-- Why a configuration cannot be met. -/
inductive Fault where
  /-- The static root leads nowhere. -/
  | staticRootMissing (root : Path) (fault : FileFault)
  /-- The static root leads to this, which is no directory. -/
  | staticRootNotDirectory (root : Path)
  /-- A file for TLS is not there. -/
  | tlsFileMissing (path : Path)
  /-- The credentials have no colon. -/
  | malformedCredentials
  /-- No frame would be kept. -/
  | noFrameBuffer
  deriving DecidableEq, Repr

/-- The words for a fault. -/
def Fault.message : Fault → String
  | staticRootMissing root fault =>
    "static root " ++ Bytes.toText root ++ " does not exist: " ++ fault.message
  | staticRootNotDirectory root => "static root " ++ Bytes.toText root ++ " is not a directory"
  | tlsFileMissing path => Bytes.toText path ++ " does not exist"
  | malformedCredentials => "credentials must be of the form user:password"
  | noFrameBuffer => "frame buffer length must be at least 1"

/-- The resolved form of a static root. -/
def checkRoot (files : FileSystem) (root : Path) : Except Fault Path := do
  match files.canonicalize root with
  | .error fault => throw (.staticRootMissing root fault)
  | .ok canonical =>
    if files.isDirectory canonical then return canonical
    else throw (.staticRootNotDirectory canonical)

/-- Both files for TLS are there. -/
def checkTls (files : FileSystem) (tls : TlsFiles) : Except Fault Unit := do
  unless files.isFile tls.certificate do throw (.tlsFileMissing tls.certificate)
  unless files.isFile tls.key do throw (.tlsFileMissing tls.key)

/-- The configuration with its static root resolved, if every setting can be met. -/
def check (files : FileSystem) : Except Fault Config := do
  -- The first setting that cannot be met is the one that is reported.
  let staticRoot ← config.staticRoot.mapM (checkRoot files)
  if let some tls := config.tls then checkTls files tls
  if let some credentials := config.credentials then
    unless ':' ∈ credentials.toList do throw .malformedCredentials
  if config.frameBufferLength = 0 then throw .noFrameBuffer
  return { config with staticRoot }

end Config

end MotionJpeg
