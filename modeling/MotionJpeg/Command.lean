import MotionJpeg.Config
import MotionJpeg.Options
import MotionJpeg.Server.Network

/-!
# Commands

What a command line comes to: help, a refusal, or a server for a directory of images.

* `Command.ofWords` decides it from the words alone.
* `Options.config` is the configuration that the options stand for.
-/

namespace MotionJpeg

namespace Options

/-- The files for TLS, if both are named. -/
def tls (options : Options) : Option TlsFiles := do
  return { certificate := .ofString (← options.cert), key := .ofString (← options.key) }

/-- The configuration that the options stand for. A rate beyond the allowed ones becomes the
nearest of them. -/
def config (options : Options) : Config :=
  let start : Config :=
    match options.bindAddress with
    | some address => { host := address.host.text, port := address.port.toNat }
    | none => {}
  let start :=
    match options.fps with
    | some fps => start.withFps fps
    | none => start
  { start with
    staticRoot := options.www.map .ofString
    credentials := options.auth
    tls := options.tls }

end Options

/-- What a command line asks for. -/
inductive Command where
  /-- To be told how the program is called. -/
  | help
  /-- Nothing, because no directory of images is named. -/
  | incomplete
  /-- Something that cannot be understood. -/
  | invalid (fault : Options.Fault)
  /-- A server with this configuration that streams the images of a directory. -/
  | stream (images : Path) (config : Config)
  deriving DecidableEq, Repr

namespace Command

/-- The words that ask for help, wherever they stand. -/
def helpWords : List String := ["--help", "-h"]

/-- The command of a command line. -/
def ofWords (words : List String) : Command :=
  if words.any fun word => word ∈ helpWords then help
  else
    match Options.parse words with
    | .error fault => invalid fault
    | .ok options =>
      match options.imageDirectory with
      | none => incomplete
      | some directory => stream (.ofString directory) options.config

/-- How the program is called. -/
def usage : List String := [
  "Usage: mjpeg_server IMAGE_DIR [BIND_ADDR] [OPTIONS]",
  "",
  "Arguments:",
  "  IMAGE_DIR    Directory of .jpg files streamed in a loop",
  "  BIND_ADDR    Address to bind to (default: all interfaces, port 8000)",
  "",
  "Options:",
  "  --www DIR          Serve static files from DIR",
  "  --auth USER:PASS   Require HTTP Basic auth",
  "  --cert FILE        PEM certificate chain (enables HTTPS)",
  "  --key FILE         PEM private key",
  "  --fps N            Frames per second (1-50, default 5)"]

/-- The lines for whoever typed the command, none if a server is to be had. -/
def advice : Command → List String
  | help | incomplete => usage
  | invalid fault => ("Error: " ++ fault.message) :: "" :: usage
  | stream .. => []

/-- Nothing is wrong with the command. -/
def isSound : Command → Bool
  | help | stream .. => true
  | incomplete | invalid _ => false

/-- The addresses of the first stream of a server on this network, one for every address that the
server listens on. -/
def streamAddresses (network : Network) (config : Config) : Except Failure (List String) := do
  let listeners ← network.listen config.host (.ofNat config.port)
  return listeners.map fun address => "http://" ++ address.text ++ "/stream/0"

end Command

end MotionJpeg
