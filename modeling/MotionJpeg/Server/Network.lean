import MotionJpeg.Failure
import MotionJpeg.Network.AddressParser

/-!
# Networks

What a server asks of the network of its machine before it runs: which addresses a name has, and
which addresses it can listen on.

* `Network.listen` finds the addresses that a server listens on, at most one of each family.
-/

namespace MotionJpeg

/-- The network of a machine. -/
structure Network where
  /-- The addresses of a name, or why none can be found. -/
  lookup : String → Except String (List HostAddress)
  /-- A server can listen there. -/
  canListen : SocketAddress → Bool
  /-- A client on this machine can connect to a server on it. -/
  connects : Bool

namespace Network

/-- The address belongs to a machine that takes every IPv4 address for its own, also where one of
IPv6 embeds it, and of IPv6 has those only that no machine is without. -/
def isOwn : SocketAddress → Bool
  | .v4 .. => true
  | .v6 address .. =>
    address.embedded?.isSome || address == .loopback || address == .unspecified

/-- Ports below this one are reserved. -/
def firstFreePort : UInt16 := 1024

/-- The port is free for every program, or it is zero and any free one will do. -/
def isFree (port : UInt16) : Bool := port == 0 || firstFreePort ≤ port

/-- The network of a machine that is cut off from all others and, but for listening, from itself:
it has its own addresses and free ports and knows no names, and no connection comes about. -/
def isolated : Network where
  lookup _ := .error "failed to lookup address information: Temporary failure in name resolution"
  canListen address := isOwn address && isFree address.port
  connects := false

/-- The network of a machine where servers and clients on it reach each other. -/
def loopback : Network := { isolated with connects := true }

/-- The addresses of a host that is given by address or by name. -/
def addressesOf (network : Network) (host : String) : Except String (List HostAddress) :=
  match HostAddress.parse? host with
  | some address => .ok [address]
  | none =>
    if '\x00' ∈ host.toList then .error "file name contained an unexpected NUL byte"
    else network.lookup host

/-- The addresses that a host and a port may stand for. No host stands for every address. -/
def candidates (network : Network) (host : String) (port : UInt16) :
    Except String (List SocketAddress) :=
  if host.isEmpty then .ok [.v6 .unspecified 0 port, .v4 .unspecified port]
  else (network.addressesOf host).map fun addresses => addresses.map fun a => .ofHost a port

/-- The address is one of IPv6. -/
def isV6 : SocketAddress → Bool
  | .v4 .. => false
  | .v6 .. => true

/-- The addresses to listen on: of each family the first one that can be had. There has to be one
at least. -/
def listen (network : Network) (host : String) (port : UInt16) :
    Except Failure (List SocketAddress) :=
  let name := host ++ ":" ++ toString port.toNat
  match network.candidates host port with
  | .error reason => .error (.bind (name ++ ": " ++ reason))
  | .ok addresses =>
    let v6 := addresses.find? fun a => isV6 a && network.canListen a
    let v4 := addresses.find? fun a => !isV6 a && network.canListen a
    match v6.toList ++ v4.toList with
    | [] => .error (.bind name)
    | found => .ok found

end Network

end MotionJpeg
