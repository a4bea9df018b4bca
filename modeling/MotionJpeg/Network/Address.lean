/-!
# Network addresses

Addresses of hosts and of their ports, with their usual text. The longest run of zero groups of an
IPv6 address is written `::`, the first one of several; an address that embeds an IPv4 address
after `::ffff:` shows it.
-/

namespace MotionJpeg

/-- An IPv4 address. -/
structure IPv4 where
  a : UInt8
  b : UInt8
  c : UInt8
  d : UInt8
  deriving DecidableEq, Repr

/-- An IPv6 address, eight groups of sixteen bits. -/
structure IPv6 where
  groups : Vector UInt16 8
  deriving DecidableEq, Repr

/-- The address of a host. -/
inductive HostAddress where
  | v4 (address : IPv4)
  | v6 (address : IPv6)
  deriving DecidableEq, Repr

/-- The address of a port of a host. -/
inductive SocketAddress where
  | v4 (address : IPv4) (port : UInt16)
  /-- The scope tells apart links that use the same addresses; zero stands for none. -/
  | v6 (address : IPv6) (scope : UInt32) (port : UInt16)
  deriving DecidableEq, Repr

namespace IPv4

/-- This host, as it is reached from itself. -/
def loopback : IPv4 := ⟨127, 0, 0, 1⟩

/-- Every address of this host. -/
def unspecified : IPv4 := ⟨0, 0, 0, 0⟩

/-- The four numbers with dots between. -/
def text (address : IPv4) : String :=
  ".".intercalate ([address.a, address.b, address.c, address.d].map fun n => toString n.toNat)

end IPv4

namespace IPv6

/-- An address from its groups; what a list lacks is zero. -/
def ofList (groups : List UInt16) : IPv6 := ⟨Vector.ofFn fun i => groups.getD i 0⟩

/-- Every address of this host. -/
def unspecified : IPv6 := .ofList []

/-- This host, as it is reached from itself. -/
def loopback : IPv6 := .ofList [0, 0, 0, 0, 0, 0, 0, 1]

/-- The IPv4 address that an address embeds after `::ffff:`, if it does. -/
def embedded? (address : IPv6) : Option IPv4 :=
  match address.groups.toList with
  | [0, 0, 0, 0, 0, 0xffff, x, y] =>
    some ⟨(x >>> 8).toUInt8, x.toUInt8, (y >>> 8).toUInt8, y.toUInt8⟩
  | _ => none

/-- The groups in hexadecimal with colons between. -/
def groupsText (groups : List UInt16) : String :=
  ":".intercalate (groups.map fun n => String.ofList (Nat.toDigits 16 n.toNat))

/-- The start and the length of the first longest run of zeros, when the list begins at index
`start` and `run` zeros stand before it. -/
def longestZeros (start run : Nat) (best : Nat × Nat) : List UInt16 → Nat × Nat
  | [] => best
  | n :: rest =>
    if n = 0 then
      longestZeros (start + 1) (run + 1)
        (if run + 1 > best.2 then (start - run, run + 1) else best) rest
    else longestZeros (start + 1) 0 best rest

/-- The groups, with the longest run of two or more zeros left out, or with the embedded IPv4
address. -/
def text (address : IPv6) : String :=
  match address.embedded? with
  | some embedded => "::ffff:" ++ embedded.text
  | none =>
    let groups := address.groups.toList
    let (start, length) := longestZeros 0 0 (0, 0) groups
    if length > 1 then
      groupsText (groups.take start) ++ "::" ++ groupsText (groups.drop (start + length))
    else groupsText groups

end IPv6

/-- The text of a host address. -/
def HostAddress.text : HostAddress → String
  | v4 address => address.text
  | v6 address => address.text

namespace SocketAddress

/-- The address of a port of a host. -/
def ofHost (host : HostAddress) (port : UInt16) : SocketAddress :=
  match host with
  | .v4 address => v4 address port
  | .v6 address => v6 address 0 port

/-- The address of the host. -/
def host : SocketAddress → HostAddress
  | v4 address _ => .v4 address
  | v6 address _ _ => .v6 address

/-- The port. -/
def port : SocketAddress → UInt16
  | v4 _ port => port
  | v6 _ _ port => port

/-- The host, in brackets if it has colons itself, a colon and the port. -/
def text : SocketAddress → String
  | v4 address port => address.text ++ ":" ++ toString port.toNat
  | v6 address scope port =>
    "[" ++ address.text ++ (if scope = 0 then "" else "%" ++ toString scope.toNat) ++ "]:" ++
      toString port.toNat

end SocketAddress

end MotionJpeg
