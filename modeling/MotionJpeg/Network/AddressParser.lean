import MotionJpeg.Network.Address

/-!
# Reading addresses

The readers take a text from the front and give what they read and the rest. A whole text is an
address when nothing is left.

* `HostAddress.parse?` reads `192.0.2.1` or `2001:db8::1`.
* `SocketAddress.parse?` reads `192.0.2.1:80` or `[2001:db8::1%3]:80`.
-/

namespace MotionJpeg

/-- Reads something off the front of a text. -/
abbrev Reader (α : Type) := List Char → Option (α × List Char)

namespace Reader

/-- The value of a digit, of either case, in a base up to sixteen. -/
def digit? (base : Nat) (c : Char) : Option Nat :=
  let value? :=
    if '0' ≤ c ∧ c ≤ '9' then some (c.toNat - 48)
    else if 'a' ≤ c ∧ c ≤ 'f' then some (c.toNat - 87)
    else if 'A' ≤ c ∧ c ≤ 'F' then some (c.toNat - 55)
    else none
  value?.filter (· < base)

/-- The values of the digits at the front of a text, and the rest. -/
def digits (base : Nat) : List Char → List Nat × List Char
  | [] => ([], [])
  | c :: rest =>
    match digit? base c with
    | none => ([], c :: rest)
    | some value =>
      let (values, rest) := digits base rest
      (value :: values, rest)

/-- Reads this character. -/
def char (expected : Char) : Reader Unit
  | [] => none
  | c :: rest => if c = expected then some ((), rest) else none

/-- The number that some digits denote, or `bound` if that is less. Counting never goes beyond
`bound`, however many digits there are. -/
def valueUpTo (base bound : Nat) (values : List Nat) : Nat :=
  values.foldl (fun n d => min bound (n * base + d)) 0

/-- Reads a number below `bound`, of at most `maxDigits` digits if that is given. -/
def number (base bound : Nat) (maxDigits : Option Nat) (zerosInFront : Bool) : Reader Nat :=
  fun text =>
    let (values, rest) := digits base text
    let value := valueUpTo base bound values
    if values = [] ∨ maxDigits.any (· < values.length) ∨ bound ≤ value ∨
        !zerosInFront ∧ values.head? = some 0 ∧ 1 < values.length then none
    else some (value, rest)

/-- Counting up to a bound and counting on agree up to the bound. -/
theorem valueUpTo_eq (base bound : Nat) (values : List Nat) (h : 0 < base) :
    valueUpTo base bound values = min bound (values.foldl (fun n d => n * base + d) 0) := by
  suffices key : ∀ n, values.foldl (fun n d => min bound (n * base + d)) (min bound n) =
      min bound (values.foldl (fun n d => n * base + d) n) by
    simpa [valueUpTo] using key 0
  induction values with
  | nil => simp
  | cons d rest ih =>
    intro n
    have hstep : min bound (min bound n * base + d) = min bound (n * base + d) := by
      rcases Nat.le_total bound n with hn | hn
      · have hb : bound ≤ bound * base := Nat.le_mul_of_pos_right bound h
        have hn' : bound ≤ n * base := Nat.le_trans hb (Nat.mul_le_mul_right base hn)
        rw [Nat.min_eq_left hn]
        omega
      · rw [Nat.min_eq_right hn]
    rw [List.foldl_cons, List.foldl_cons, hstep, ih]

/-- Reads one of the four numbers of an IPv4 address, which has no zeros in front. -/
def octet : Reader UInt8 := fun text => do
  let (n, text) ← number 10 256 (some 3) false text
  return (.ofNat n, text)

/-- Reads an IPv4 address. -/
def ipv4 : Reader IPv4 := fun text => do
  let (a, text) ← octet text
  let ((), text) ← char '.' text
  let (b, text) ← octet text
  let ((), text) ← char '.' text
  let (c, text) ← octet text
  let ((), text) ← char '.' text
  let (d, text) ← octet text
  return (⟨a, b, c, d⟩, text)

/-- Reads the colon before a group, which the first one does without. -/
def groupStart (isFirst : Bool) : Reader Unit :=
  if isFirst then fun text => some ((), text) else char ':'

/-- Two bytes as a group. -/
def groupOf (high low : UInt8) : UInt16 := high.toUInt16 <<< 8 ||| low.toUInt16

/-- Reads up to `room` groups, the last two of which an IPv4 address may take, and tells whether
one did. -/
def groups (isFirst : Bool) (room : Nat) (text : List Char) : (List UInt16 × Bool) × List Char :=
  match room with
  | 0 => (([], false), text)
  | room + 1 =>
    let start := groupStart isFirst text
    -- An IPv4 address takes two groups, so the last one alone has no room for it.
    match if room = 0 then none else start.bind fun (_, text) => ipv4 text with
    | some (address, rest) =>
      (([groupOf address.a address.b, groupOf address.c address.d], true), rest)
    | none =>
      match start.bind fun (_, text) => number 16 65536 (some 4) true text with
      | none => (([], false), text)
      | some (n, rest) =>
        let ((more, embeds), rest) := groups false room rest
        ((.ofNat n :: more, embeds), rest)

/-- Reads an IPv6 address: eight groups, or fewer with `::` in place of the zeros left out, of
which there is at least one. -/
def ipv6 : Reader IPv6 := fun text => do
  let ((front, embeds), text) := groups true 8 text
  if front.length = 8 then return (.ofList front, text)
  -- An IPv4 address stands at the end, so no zeros are left out behind it.
  if embeds then none
  let ((), text) ← char ':' text
  let ((), text) ← char ':' text
  let ((back, _), text) := groups true (7 - front.length) text
  return (.ofList (front ++ List.replicate (8 - front.length - back.length) 0 ++ back), text)

/-- Reads a colon and a port. -/
def port : Reader UInt16 := fun text => do
  let ((), text) ← char ':' text
  let (n, text) ← number 10 65536 none true text
  return (.ofNat n, text)

/-- Reads a percent sign and a scope, if they are there. -/
def scope (text : List Char) : UInt32 × List Char :=
  match (char '%' text).bind fun (_, text) => number 10 4294967296 none true text with
  | some (n, rest) => (.ofNat n, rest)
  | none => (0, text)

/-- Reads the address of a host. -/
def host : Reader HostAddress := fun text =>
  match ipv4 text with
  | some (address, rest) => some (.v4 address, rest)
  | none => (ipv6 text).map fun (address, rest) => (.v6 address, rest)

/-- Reads an IPv4 address and a port. -/
def socketV4 : Reader SocketAddress := fun text => do
  let (address, text) ← ipv4 text
  let (port, text) ← port text
  return (.v4 address port, text)

/-- Reads an IPv6 address, with a scope or without, in brackets, and a port. -/
def socketV6 : Reader SocketAddress := fun text => do
  let ((), text) ← char '[' text
  let (address, text) ← ipv6 text
  let (scope, text) := scope text
  let ((), text) ← char ']' text
  let (port, text) ← port text
  return (.v6 address scope port, text)

/-- What a reader makes of a text if it takes all of it. -/
def whole? {α : Type} (read : Reader α) (text : String) : Option α :=
  match read text.toList with
  | some (value, []) => some value
  | _ => none

end Reader

/-- The host address that a text spells out. -/
def HostAddress.parse? (text : String) : Option HostAddress := Reader.whole? Reader.host text

/-- The socket address that a text spells out. -/
def SocketAddress.parse? (text : String) : Option SocketAddress :=
  Reader.whole? (fun text => (Reader.socketV4 text).or (Reader.socketV6 text)) text

end MotionJpeg
