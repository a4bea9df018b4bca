import MotionJpeg.Bytes.Basic

/-!
# Base64

The standard alphabet with padding: three bytes become four letters.

* `Base64.encode` writes; what is left over after whole groups of three is padded with `=`.
* `Base64.decode` reads, skipping white space. The last group may do without its padding. Symbols
  are looked at in blocks of two groups, so that a stray byte in a block is found before padding in
  the wrong place.
-/

namespace MotionJpeg.Base64

/-- The letter for a value below 64. -/
def letter (value : Nat) : UInt8 :=
  if value < 26 then UInt8.ofNat (65 + value)
  else if value < 52 then UInt8.ofNat (97 + (value - 26))
  else if value < 62 then UInt8.ofNat (48 + (value - 52))
  else if value = 62 then 43
  else 47

/-- The value of a letter, for a byte that is one. -/
def value? (c : UInt8) : Option Nat :=
  let n := c.toNat
  if 65 ≤ n ∧ n ≤ 90 then some (n - 65)
  else if 97 ≤ n ∧ n ≤ 122 then some (n - 97 + 26)
  else if 48 ≤ n ∧ n ≤ 57 then some (n - 48 + 52)
  else if n = 43 then some 62
  else if n = 47 then some 63
  else none

/-- The padding character `=`. -/
def pad : UInt8 := 61

/-- The letters for a byte string, a multiple of four with the padding. -/
def encode : Bytes → Bytes
  | [] => []
  | [a] =>
    let n := a.toNat * 16
    [letter (n / 64), letter (n % 64), pad, pad]
  | [a, b] =>
    let n := (a.toNat * 256 + b.toNat) * 4
    [letter (n / 4096), letter (n / 64 % 64), letter (n % 64), pad]
  | a :: b :: c :: rest =>
    let n := (a.toNat * 256 + b.toNat) * 256 + c.toNat
    letter (n / 262144) :: letter (n / 4096 % 64) :: letter (n / 64 % 64) :: letter (n % 64) ::
      encode rest

/-- Why a text is not the Base64 form of anything. -/
inductive Fault where
  /-- A byte that is neither a letter, nor padding, nor white space. -/
  | character (c : UInt8)
  /-- Padding before the last group of the text. -/
  | earlyPadding
  /-- A last group that is not completed by its padding. -/
  | trailingPadding
  deriving DecidableEq, Repr

/-- The name and, for a stray byte, the number of a fault. -/
def Fault.message : Fault → String
  | character c => s!"InvalidCharacter({c.toNat})"
  | earlyPadding => "PrematurePadding"
  | trailingPadding => "InvalidTrailingPadding"

/-- What a byte of a text stands for. -/
inductive Symbol where
  /-- A letter, by its value. -/
  | value (n : Nat)
  | padding
  deriving DecidableEq, Repr

/-- The symbol that a byte stands for, if it is one. -/
def Symbol.ofByte? (c : UInt8) : Option Symbol :=
  if c = pad then some padding else (value? c).map value

/-- White space between symbols carries nothing: the space, and all from the tab to CR. -/
def isSkipped (c : UInt8) : Bool := c == 32 || (9 ≤ c && c ≤ 13)

/-- The bytes of a group. One of two or three letters may be completed by padding or not. -/
def groupBytes : List Symbol → Except Fault Bytes
  | [] => .ok []
  | [.value a, .value b] | [.value a, .value b, .padding, .padding] =>
    .ok [UInt8.ofNat ((a * 64 + b) / 16)]
  | [.value a, .value b, .value c] | [.value a, .value b, .value c, .padding] =>
    let n := ((a * 64 + b) * 64 + c) / 4
    .ok [UInt8.ofNat (n / 256), UInt8.ofNat n]
  | [.value a, .value b, .value c, .value d] =>
    let n := ((a * 64 + b) * 64 + c) * 64 + d
    .ok [UInt8.ofNat (n / 65536), UInt8.ofNat (n / 256), UInt8.ofNat n]
  | _ => .error .trailingPadding

/-- How many symbols a block has, which is two groups. -/
def blockSize : Nat := 8

/-- The bytes of the last block of a text. Padding cannot stand in the first group of two. -/
def blockBytes (block : List Symbol) : Except Fault Bytes :=
  if 4 < block.length then do
    if .padding ∈ block.take 4 then throw .earlyPadding
    return (← groupBytes (block.take 4)) ++ (← groupBytes (block.drop 4))
  else groupBytes block

/-- Reads on, with the symbols of the block begun and the bytes of the blocks before it, both last
first. What is wrong with a block shows when it is complete and another symbol follows, or at the
end of the text. -/
def decodeFrom (block : List Symbol) (done : Bytes) : Bytes → Except Fault Bytes
  | [] => (blockBytes block.reverse).map (done.reverse ++ ·)
  | c :: rest =>
    if isSkipped c then decodeFrom block done rest
    else
      match Symbol.ofByte? c with
      | none => .error (.character c)
      | some symbol =>
        if block.length < blockSize then decodeFrom (symbol :: block) done rest
        -- The block is complete, and this symbol shows that it was not the last.
        else if .padding ∈ block then .error .earlyPadding
        else
          match blockBytes block.reverse with
          | .error fault => .error fault
          | .ok bytes => decodeFrom [symbol] (bytes.reverse ++ done) rest

/-- The bytes that a Base64 text stands for. -/
def decode (text : Bytes) : Except Fault Bytes := decodeFrom [] [] text

end MotionJpeg.Base64
