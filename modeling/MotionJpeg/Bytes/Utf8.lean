import MotionJpeg.Bytes.Basic

/-!
# UTF-8

A machine that reads UTF-8 one byte at a time. Between two characters it is in the state
`boundary`; a byte string is well formed when the machine reads all of it and stops there.

* `Utf8.repair` puts a replacement character in the place of whatever is no character, and
  `Bytes.toText` shows a byte string in this way.
* `Utf8.run_append`: reading two strings one after the other is reading their concatenation, so
  well-formedness can be cut and joined at every character boundary.
* `Utf8.repair_of_isValid`: a well-formed string has nothing to repair.
-/

namespace MotionJpeg

namespace Utf8

/-- Where the reader stands inside a character. -/
inductive State where
  /-- Between two characters. -/
  | boundary
  /-- This many continuation bytes, less one, are still owed. -/
  | owes (more : Fin 3)
  /-- After `E0`: the next byte is at least `A0`, so that no shorter form is spelled out. -/
  | afterE0
  /-- After `ED`: the next byte is at most `9F`, so that no surrogate is spelled out. -/
  | afterED
  /-- After `F0`: the next byte is at least `90`, so that no shorter form is spelled out. -/
  | afterF0
  /-- After `F4`: the next byte is at most `8F`, so that the character exists. -/
  | afterF4
  deriving DecidableEq, Repr

/-- Enters `next` if the byte lies between `low` and `high`. -/
def State.within (low high : UInt8) (next : State) (c : UInt8) : Option State :=
  if low ≤ c && c ≤ high then some next else none

/-- The state after the first byte of a character. -/
def State.lead (c : UInt8) : Option State :=
  if c < 0x80 then some boundary
  else if c < 0xC2 then none
  else if c < 0xE0 then some (owes 0)
  else if c = 0xE0 then some afterE0
  else if c = 0xED then some afterED
  else if c < 0xF0 then some (owes 1)
  else if c = 0xF0 then some afterF0
  else if c < 0xF4 then some (owes 2)
  else if c = 0xF4 then some afterF4
  else none

/-- The state after one more byte, `none` where no text continues so. -/
def State.step : State → UInt8 → Option State
  | boundary, c => lead c
  | owes 0, c => within 0x80 0xBF boundary c
  | owes 1, c => within 0x80 0xBF (owes 0) c
  | owes 2, c => within 0x80 0xBF (owes 1) c
  | afterE0, c => within 0xA0 0xBF (owes 0) c
  | afterED, c => within 0x80 0x9F (owes 0) c
  | afterF0, c => within 0x90 0xBF (owes 1) c
  | afterF4, c => within 0x80 0x8F (owes 1) c

/-- The state after all of a byte string. -/
def run : State → Bytes → Option State
  | state, [] => some state
  | state, c :: rest =>
    match state.step c with
    | some next => run next rest
    | none => none

/-- The byte string is a sequence of whole characters. -/
def isValid (bytes : Bytes) : Bool := run .boundary bytes == some .boundary

/-- The replacement character `FFFD`. -/
def replacement : Bytes := [0xEF, 0xBF, 0xBD]

/-- Reads on in `state`, with the bytes of the character begun, last first. -/
def repairFrom (state : State) (begun : Bytes) : Bytes → Bytes
  | [] => if begun.isEmpty then [] else replacement
  | c :: rest =>
    match state.step c with
    | some .boundary => (c :: begun).reverse ++ repairFrom .boundary [] rest
    | some next => repairFrom next (c :: begun) rest
    | none =>
      (if begun.isEmpty then [] else replacement) ++
        match State.lead c with
        | some .boundary => c :: repairFrom .boundary [] rest
        | some next => repairFrom next [c] rest
        | none => replacement ++ repairFrom .boundary [] rest

/-- The byte string with a replacement character for every beginning of a character that does not
go on, and for every byte that begins none. -/
def repair (bytes : Bytes) : Bytes := repairFrom .boundary [] bytes

theorem run_append (state : State) (a b : Bytes) :
    run state (a ++ b) = (run state a).bind (run · b) := by
  induction a generalizing state with
  | nil => rfl
  | cons c rest ih =>
    simp only [List.cons_append, run]
    cases state.step c with
    | none => rfl
    | some next => exact ih next

/-- Well-formed strings can be put side by side. -/
theorem isValid_append {a b : Bytes} (ha : isValid a) (hb : isValid b) : isValid (a ++ b) := by
  simp_all [isValid, run_append]

/-- A string that goes on well from the character begun loses nothing. -/
theorem repairFrom_of_run {state : State} {begun bytes : Bytes}
    (hrun : run state bytes = some .boundary) (hbegun : state = .boundary → begun = []) :
    repairFrom state begun bytes = begun.reverse ++ bytes := by
  induction bytes generalizing state begun with
  | nil =>
    obtain rfl : state = .boundary := by simpa [run] using hrun
    simp [repairFrom, hbegun rfl]
  | cons c rest ih =>
    unfold run at hrun
    cases hstep : state.step c with
    | none => simp [hstep] at hrun
    | some next =>
      simp only [hstep] at hrun
      by_cases hnext : next = .boundary
      · subst hnext
        simp [repairFrom, hstep, ih hrun fun _ => rfl]
      · simp [repairFrom, hstep, ih hrun fun h => absurd h hnext]

/-- Well-formed strings have nothing to repair. -/
theorem repair_of_isValid {bytes : Bytes} (h : isValid bytes) : repair bytes = bytes := by
  have hrun : run .boundary bytes = some .boundary := by simpa [isValid] using h
  simpa [repair] using repairFrom_of_run hrun fun _ => rfl

end Utf8

/-- The text that a byte string is shown as, with a replacement character where it is not UTF-8. -/
def Bytes.toText (bytes : Bytes) : String := (toText? (Utf8.repair bytes)).getD ""

end MotionJpeg
