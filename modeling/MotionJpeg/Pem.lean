import MotionJpeg.Base64
import MotionJpeg.Bytes.Utf8
import MotionJpeg.Quoted

/-!
# PEM files

A PEM file holds labelled sections of Base64 between a `BEGIN` and an `END` line. What stands
outside of sections is ignored, and so are sections with a label that nobody asks for.

* `Pem.scan` collects the sections of a file up to the first thing that is wrong with it.
-/

namespace MotionJpeg.Pem

/-- A section that is complete. -/
structure Section where
  label : Bytes
  /-- What the Base64 text stands for. -/
  content : Bytes
  deriving DecidableEq, Repr

/-- What is wrong with a file. -/
inductive Fault where
  /-- The section with this label has no end. -/
  | endMissing (label : Bytes)
  /-- A line begins like the start of a section and does not end so. -/
  | illegalStart (line : Bytes)
  /-- The text of a section is not Base64. -/
  | base64 (fault : Base64.Fault)
  deriving DecidableEq, Repr

/-- Bytes as a text between quotes. -/
def quoted (bytes : Bytes) : String := Quoted.encode bytes.toText

/-- The words for a fault. -/
def Fault.message : Fault → String
  | endMissing label => "section end " ++ quoted label ++ " missing"
  | illegalStart line => "illegal section start: " ++ quoted line
  | base64 fault => fault.message

/-- The labels of the sections that are kept. -/
def knownLabels : List Bytes := [
  .ofString "CERTIFICATE",
  .ofString "PUBLIC KEY",
  .ofString "RSA PRIVATE KEY",
  .ofString "PRIVATE KEY",
  .ofString "EC PRIVATE KEY",
  .ofString "X509 CRL",
  .ofString "ECHCONFIG",
  .ofString "CERTIFICATE REQUEST"]

/-- What a line begins with that starts a section. -/
def startMark : Bytes := .ofString "-----BEGIN "

/-- What a line begins with that ends a section. -/
def endMark : Bytes := .ofString "-----END "

/-- Five dashes. -/
def dashes : Bytes := .ofString "-----"

/-- The lines of a file, each with the CR or LF that ends it. -/
def lines (text : Bytes) : List Bytes :=
  go [] text
where
  /-- Continues a line whose bytes so far are `line`, last first. -/
  go (line : Bytes) : Bytes → List Bytes
    | [] => if line.isEmpty then [] else [line.reverse]
    | c :: rest =>
      if c = 10 ∨ c = 13 then (c :: line).reverse :: go [] rest else go (c :: line) rest

/-- The number of dashes at the end of a reversed line, not counting spaces and line ends among
them, and what is left before the first of those dashes. -/
def trailingDashes (count : Nat) (left : Bytes) : Bytes → Nat × Bytes
  | [] => (count, left)
  | c :: rest =>
    if c = 45 then trailingDashes (count + 1) rest rest
    else if c = 10 ∨ c = 13 ∨ c = 32 then trailingDashes count left rest
    else (count, left)

/-- The label in the rest of a line after the mark of a start, if five dashes follow it. -/
def startLabel? (line : Bytes) : Option Bytes :=
  match trailingDashes 0 line.reverse line.reverse with
  | (5, left) => some (left.reverse.drop startMark.length)
  | _ => none

/-- The line ends the section with this label. -/
def isEnd (label line : Bytes) : Bool := (endMark ++ label ++ dashes).isPrefixOf line

/-- What a scan of a file comes to. -/
structure Scan where
  /-- The sections with known labels, in order. -/
  sections : List Section
  /-- What is wrong after them. -/
  fault : Option Fault
  deriving DecidableEq, Repr

/-- Scans lines, inside of the section with the label `current` if there is one, with the lines of
text so far, last first. A section that another one begins in leaves its text to that one. -/
def scanLines (current : Option Bytes) (text : List Bytes) : List Bytes → Scan
  | [] => ⟨[], current.map .endMissing⟩
  | line :: rest =>
    if startMark.isPrefixOf line then
      match startLabel? line with
      | none => ⟨[], some (.illegalStart line)⟩
      | some label => scanLines (some label) text rest
    else
      match current with
      | none => scanLines none text rest
      | some label =>
        if isEnd label line then
          if knownLabels.contains label then
            match Base64.decode text.reverse.flatten with
            | .error fault => ⟨[], some (.base64 fault)⟩
            | .ok content =>
              let scan := scanLines none [] rest
              { scan with sections := ⟨label, content⟩ :: scan.sections }
          else scanLines none [] rest
        else scanLines (some label) (line :: text) rest

/-- Scans a file. -/
def scan (text : Bytes) : Scan := scanLines none [] (lines text)

end MotionJpeg.Pem
