import MotionJpeg.Bytes.Basic

/-!
# JPEG inspection

A JPEG begins with a start-of-image marker. Its size stands in the first frame header, which comes
after any number of fill bytes, markers that stand alone and segments that tell their length.

* `Jpeg.dimensions?` reads width and height.
-/

namespace MotionJpeg.Jpeg

/-- The marker at the start of every image. -/
def startOfImage : Bytes := [0xFF, 0xD8]

/-- The data begins like a JPEG. -/
def isJpeg (data : Bytes) : Bool := startOfImage.isPrefixOf data

/-- The marker opens a frame header. -/
def isFrameHeader (marker : UInt8) : Bool :=
  0xC0 ≤ marker && marker ≤ 0xCF && marker != 0xC4 && marker != 0xC8 && marker != 0xCC

/-- The marker stands alone, with no length after it. -/
def isStandalone (marker : UInt8) : Bool := marker == 0x01 || 0xD0 ≤ marker && marker ≤ 0xD8

/-- The marker opens the scan data. -/
def startOfScan : UInt8 := 0xDA

/-- The size in a frame header, from the precision byte on. -/
def frameSize? : Bytes → Option (Nat × Nat)
  | _ :: h :: h' :: w :: w' :: _ => some (Bytes.pairToNat w w', Bytes.pairToNat h h')
  | _ => none

/-- Looks for the frame header after the next `skip` bytes. -/
def scan (skip : Nat) : Bytes → Option (Nat × Nat)
  | [] => none
  | c :: rest =>
    match skip with
    | skip + 1 => scan skip rest
    | 0 =>
      match rest with
      | marker :: high :: low :: body =>
        let length := Bytes.pairToNat high low
        if c ≠ 0xFF then none
        else if marker = 0xFF then scan 0 rest
        else if isStandalone marker then scan 1 rest
        else if isFrameHeader marker then frameSize? body
        else if marker = startOfScan ∨ length < 2 then none
        else scan (length + 1) rest
      | _ => none

/-- The width and the height of an image. -/
def dimensions? (data : Bytes) : Option (Nat × Nat) :=
  match Bytes.after? startOfImage data with
  | some rest => scan 0 rest
  | none => none

end MotionJpeg.Jpeg
