import MotionJpeg.Bytes.Ascii

/-!
# Request heads

A head ends at the first blank line. Its lines end in CR LF, and a line that begins with a space
or a tab is folded: it continues the line before it.

* `Http.headEnd?` finds the blank line.
* `Http.logicalLines` undoes the folding.
-/

namespace MotionJpeg.Http

/-- The bytes that end the last line of a head and the blank line after it. -/
def blankLine : Bytes := [13, 10, 13, 10]

/-- Where the blank line begins that ends a head. -/
def headEnd? (data : Bytes) : Option Nat := blankLine.search? data

/-- The bytes before the first blank line, or all of them if there is none. -/
def headOf (data : Bytes) : Bytes :=
  match headEnd? data with
  | some e => data.take e
  | none => data

/-- Whether a line continues the one before it. -/
def isContinuation (line : Bytes) : Bool := line.head?.any Ascii.isSpaceOrTab

/-- The continuation at the front of some lines, without its leading blanks, and the logical
lines after it. -/
def mergeContinuations : List Bytes → Bytes × List Bytes
  | [] => ([], [])
  | line :: rest =>
    let (continuation, lines) := mergeContinuations rest
    if isContinuation line then (line.dropWhile Ascii.isSpaceOrTab ++ continuation, lines)
    else ([], (line ++ continuation) :: lines)

/-- The lines of a head with the folded ones merged. A first line has nothing to continue and
stays as it is. -/
def logicalLines (head : Bytes) : List Bytes :=
  match head.crlfLines with
  | [] => []
  | line :: rest =>
    let (continuation, lines) := mergeContinuations rest
    (line ++ continuation) :: lines

end MotionJpeg.Http
