import MotionJpeg.Bytes.Slice

/-!
# Transports

The server's end of a connection, as far as the server can tell: every read, write or flush is one
attempt that ends at once. What the peer and the network do is settled beforehand, by queues of
outcomes, so that any behaviour of theirs is a value of `Transport`.

* `Transport.read` takes from the bytes that have arrived.
* `Transport.write` gives bytes away, often fewer than it is offered.
* `Transport.sent` is everything that the peer was given.
-/

namespace MotionJpeg

/-- Why an attempt to read, write or flush came to nothing. -/
inductive TransportError where
  /-- Nothing can be moved now. -/
  | wouldBlock
  /-- The attempt was cut short. -/
  | interrupted
  | brokenPipe
  | connectionReset
  deriving DecidableEq, Repr

/-- A later attempt may go through. -/
def TransportError.isTransient : TransportError → Bool
  | wouldBlock | interrupted => true
  | brokenPipe | connectionReset => false

/-- Something that reads come upon. -/
inductive Arrival where
  /-- Bytes, given out piece by piece. -/
  | data (bytes : Bytes)
  /-- A failure of one read. -/
  | failure (error : TransportError)
  deriving DecidableEq, Repr

/-- How a write ends. -/
inductive WriteOutcome where
  | all
  | upTo (limit : Nat)
  | failure (error : TransportError)
  deriving DecidableEq, Repr

/-- One end of a connection. -/
structure Transport where
  /-- What reads are still to come upon. -/
  arrivals : List Arrival := []
  /-- The peer sends nothing after that. -/
  hasEnded : Bool := false
  /-- How the next writes end. -/
  outcomes : List WriteOutcome := []
  /-- How writes end after those. -/
  usualOutcome : WriteOutcome := .all
  /-- How the next flushes fail; those after them succeed. -/
  flushErrors : List TransportError := []
  /-- What the peer was given, the last piece first. -/
  pieces : List Bytes := []
  deriving DecidableEq, Repr, Inhabited

namespace Transport

variable (transport : Transport)

/-- Everything that the peer was given. -/
def sent : Bytes := transport.pieces.reverse.flatten

/-- The bytes that have arrived and were not read. -/
def unread : Bytes :=
  transport.arrivals.flatMap fun
    | .data bytes => bytes
    | .failure _ => []

/-- More bytes arrive. -/
def feed (bytes : Bytes) : Transport :=
  if bytes.isEmpty then transport
  else { transport with arrivals := transport.arrivals ++ [.data bytes] }

/-- Reads at most `limit` bytes; no bytes mean that the peer has ended. -/
def read (limit : Nat) : Except TransportError Bytes × Transport :=
  match transport.arrivals with
  | [] => (if transport.hasEnded then .ok [] else .error .wouldBlock, transport)
  | .failure error :: rest => (.error error, { transport with arrivals := rest })
  | .data bytes :: rest =>
    -- What there is no room for comes up again at the next read.
    let left := bytes.drop limit
    let arrivals := if left.isEmpty then rest else .data left :: rest
    (.ok (bytes.take limit), { transport with arrivals })

/-- The transport after the peer took these bytes. -/
def give (bytes : Bytes) : Transport := { transport with pieces := bytes :: transport.pieces }

/-- How the next write ends, and the transport that is left for the writes after it. -/
def nextOutcome : WriteOutcome × Transport :=
  match transport.outcomes with
  | [] => (transport.usualOutcome, transport)
  | outcome :: rest => (outcome, { transport with outcomes := rest })

/-- Offers bytes to the peer and tells how many it took, those at the front. -/
def write (bytes : Slice) : Except TransportError Nat × Transport :=
  let (outcome, transport) := transport.nextOutcome
  match outcome with
  | .all => (.ok bytes.length, transport.give bytes.toBytes)
  | .upTo limit => (.ok (min limit bytes.length), transport.give (bytes.take limit).toBytes)
  | .failure error => (.error error, transport)

/-- Hurries bytes on that the transport holds back. -/
def flush : Except TransportError Unit × Transport :=
  match transport.flushErrors with
  | [] => (.ok (), transport)
  | error :: rest => (.error error, { transport with flushErrors := rest })

end Transport

end MotionJpeg
