import MotionJpeg.Config
import MotionJpeg.Failure
import MotionJpeg.Pem

/-!
# TLS material

The certificates and the private key that a server identifies itself with, as read from its PEM
files. How these files are read and whether the material is any good is for the TLS engine to say.

* `TlsEngine` is what the program asks of an engine, whose code is not part of it.
* `TlsMaterial.load` loads the material with an engine.
* `TlsMaterial.refuseAll` is an engine that reads files as `Pem.scan` does.
-/

namespace MotionJpeg

/-- Certificates and a private key. -/
structure TlsMaterial where
  /-- The certificates, one at least, in the order of the file. -/
  certificates : List Bytes
  /-- The first private key of its file. -/
  key : Pem.Section
  deriving DecidableEq, Repr

/-- What is read from a PEM file. -/
structure PemReading where
  /-- The sections with labels that are known, in order. -/
  sections : List Pem.Section
  /-- The words for what is wrong after them. -/
  fault : Option String
  deriving DecidableEq, Repr

/-- The library that does TLS for the program. -/
structure TlsEngine where
  /-- Reads a PEM file. -/
  readPem : Bytes → PemReading
  /-- Why some material is refused, if it is. -/
  refusal? : TlsMaterial → Option String

namespace TlsMaterial

/-- An engine that knows no kind of key. -/
def refuseAll : TlsEngine where
  readPem text :=
    let scan := Pem.scan text
    ⟨scan.sections, scan.fault.map Pem.Fault.message⟩
  refusal? _ := some "failed to parse private key as RSA, ECDSA, or EdDSA"

/-- The label of a certificate. -/
def certificateLabel : Bytes := .ofString "CERTIFICATE"

/-- The labels of private keys. -/
def keyLabels : List Bytes := [
  .ofString "RSA PRIVATE KEY",
  .ofString "PRIVATE KEY",
  .ofString "EC PRIVATE KEY"]

/-- The words for what is wrong at a path. -/
def reasonAt (path : Path) (reason : String) : String := Bytes.toText path ++ ": " ++ reason

variable (engine : TlsEngine) (files : FileSystem)

/-- Reads the PEM file at a path. -/
def readFile (path : Path) : Except String PemReading :=
  match files.readFile path with
  | .ok text => .ok (engine.readPem text)
  | .error fault => .error (reasonAt path fault.message)

/-- The certificates of a file. Nothing may be wrong anywhere in it. -/
def loadCertificates (path : Path) : Except String (List Bytes) := do
  let reading ← readFile engine files path
  if let some fault := reading.fault then throw (reasonAt path fault)
  match reading.sections.filter (·.label == certificateLabel) with
  | [] => throw (reasonAt path "no certificates found")
  | sections => return sections.map (·.content)

/-- The first private key of a file. What is wrong after it does not matter. -/
def loadKey (path : Path) : Except String Pem.Section := do
  let reading ← readFile engine files path
  match reading.sections.find? fun found => keyLabels.contains found.label with
  | some found => return found
  | none =>
    match reading.fault with
    | some fault => throw (reasonAt path fault)
    | none => throw (reasonAt path "no private key found")

/-- Loads the material and asks the engine whether it will do. -/
def load (tls : TlsFiles) : Except TlsFailure TlsMaterial := do
  let certificates ← (loadCertificates engine files tls.certificate).mapError .certificate
  let key ← (loadKey engine files tls.key).mapError .privateKey
  let material : TlsMaterial := ⟨certificates, key⟩
  match engine.refusal? material with
  | some reason => throw (.engine reason)
  | none => return material

end TlsMaterial

end MotionJpeg
