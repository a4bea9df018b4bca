import MotionJpeg.Capture.Source
import MotionJpeg.Router
import MotionJpeg.Server.Network
import MotionJpeg.Session.Basic
import MotionJpeg.TlsMaterial

/-!
# Servers

A server owns its capture sources, their stores and the sessions of its clients.

* `Server.bind` makes a server of a configuration that can be met.
* `Server.captureAll` captures once from every source.
-/

namespace MotionJpeg

/-- A capture source and what came of its captures. -/
structure CaptureSlot where
  source : Source
  stats : CaptureStats := {}
  deriving DecidableEq, Repr

/-- A connection that asks to be accepted. -/
structure Connection where
  peer : SocketAddress
  transport : Transport
  deriving DecidableEq, Repr

/-- The state of a server. -/
structure Server where
  /-- The configuration, checked. -/
  config : Config
  router : Router
  /-- One store for every source. -/
  sources : Registry
  /-- The sources in order. -/
  capture : List CaptureSlot
  /-- The clients by their numbers, the longest connected first. -/
  sessions : List (Nat × Session) := []
  /-- The number of the next client. -/
  nextId : Nat := 1
  listeners : List SocketAddress

namespace Server

/-- The size of the frames: that of the first source if it knows it, and else the configured
one. -/
def frameSize (config : Config) (sources : List Source) : Nat × Nat :=
  match sources with
  | [] => (config.width, config.height)
  | source :: _ =>
    if source.width > 0 && source.height > 0 then (source.width, source.height)
    else (config.width, config.height)

/-- A server for these sources. The configuration is checked first, then the TLS material is
loaded, and last the addresses are taken. -/
def bind (network : Network) (engine : TlsEngine) (files : FileSystem) (config : Config)
    (sources : List Source) : Except Failure Server := do
  let config ← (config.check files).mapError fun fault => .config fault.message
  if let some tls := config.tls then
    discard <| (TlsMaterial.load engine files tls).mapError .tls
  let listeners ← network.listen config.host (.ofNat config.port)
  let (width, height) := frameSize config sources
  let store := Store.empty config.frameBufferLength config.maxFrameSize
  return {
    config
    router := { staticRoot := config.staticRoot, secret := config.secret }
    sources := ⟨sources.map fun _ => store, width, height⟩
    capture := sources.map fun source => { source }
    listeners }

variable (server : Server)

/-- What came of the captures of a source. -/
def captureStats? (source : Nat) : Option CaptureStats := server.capture[source]?.map (·.stats)

/-- The number of clients. -/
def sessionCount : Nat := server.sessions.length

/-- Captures once from the source with this index into its store. -/
def captureFrom (sources : Registry) (index : Nat) (slot : CaptureSlot) : Registry × CaptureSlot :=
  let (result, source) := slot.source.capture
  match result with
  | .error _ => (sources, { source, stats := slot.stats.recordDrop })
  | .ok frame =>
    match sources.push index frame with
    | .ok (_, sources) => (sources, { source, stats := slot.stats.recordFrame frame.length })
    | .error _ => (sources, { source, stats := slot.stats.recordDrop })

/-- Captures once from each of some slots, the first of which has this index. -/
def captureSlots (sources : Registry) (index : Nat) :
    List CaptureSlot → Registry × List CaptureSlot
  | [] => (sources, [])
  | slot :: rest =>
    let (sources, slot) := captureFrom sources index slot
    let (sources, rest) := captureSlots sources (index + 1) rest
    (sources, slot :: rest)

/-- Captures once from every source. -/
def captureAll : Server :=
  let (sources, capture) := captureSlots server.sources 0 server.capture
  { server with sources, capture }

end Server

end MotionJpeg
