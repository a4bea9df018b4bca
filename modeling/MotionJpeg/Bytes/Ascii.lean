import MotionJpeg.Bytes.Basic

/-!
# ASCII classes

The character classes of the wire formats are classes of ASCII bytes: every byte of a longer
UTF-8 character is at least `0x80` and lies in none of them.
-/

namespace MotionJpeg.Ascii

/-- Space or horizontal tab, the linear white space of a request head. -/
def isSpaceOrTab (c : UInt8) : Bool := c == 32 || c == 9

/-- What is trimmed off a header value: space, tab, CR, LF and NUL. -/
def isBlank (c : UInt8) : Bool := isSpaceOrTab c || c == 13 || c == 10 || c == 0

/-- The bytes without the blanks at either end. -/
def trimBlanks (bytes : Bytes) : Bytes :=
  ((bytes.dropWhile isBlank).reverse.dropWhile isBlank).reverse

/-- A decimal digit. -/
def isDigit (c : UInt8) : Bool := 48 ≤ c && c ≤ 57

/-- The lower-case form of an ASCII letter, and any other byte itself. -/
def toLower (c : UInt8) : UInt8 := if 65 ≤ c && c ≤ 90 then c + 32 else c

/-- Equality up to the case of ASCII letters. -/
def equalsIgnoreCase (a b : Bytes) : Bool := a.map toLower == b.map toLower

/-- The number that a run of decimal digits denotes; bytes that are no digits count as their
distance from `0`. -/
def digitsToNat (digits : Bytes) : Nat :=
  digits.foldl (fun n c => n * 10 + (c.toNat - 48)) 0

/-- The number that a run of decimal digits denotes, if it is less than `bound`. The rest of the
run is left alone once the digits before it denote too much, as more digits never denote less. -/
def numberBelow? (bound : Nat) (digits : Bytes) : Option Nat :=
  go 0 digits
where
  /-- Goes on after digits that denote `number`. -/
  go (number : Nat) : Bytes → Option Nat
    | [] => if number < bound then some number else none
    | c :: rest => if number < bound then go (number * 10 + (c.toNat - 48)) rest else none

/-- More digits never denote less. -/
theorem le_foldl_digits (digits : Bytes) (number : Nat) :
    number ≤ digits.foldl (fun n c => n * 10 + (c.toNat - 48)) number := by
  induction digits generalizing number with
  | nil => simp
  | cons c rest ih =>
    have h := ih (number * 10 + (c.toNat - 48))
    rw [List.foldl_cons]
    omega

theorem numberBelow?_eq (bound : Nat) (digits : Bytes) :
    numberBelow? bound digits =
      if digitsToNat digits < bound then some (digitsToNat digits) else none := by
  suffices h : ∀ number, numberBelow?.go bound number digits =
      if digits.foldl (fun n c => n * 10 + (c.toNat - 48)) number < bound then
        some (digits.foldl (fun n c => n * 10 + (c.toNat - 48)) number)
      else none from h 0
  intro number
  induction digits generalizing number with
  | nil => rfl
  | cons c rest ih =>
    rw [numberBelow?.go, List.foldl_cons]
    split
    · exact ih _
    · have h := le_foldl_digits rest (number * 10 + (c.toNat - 48))
      rw [if_neg (by omega)]

end MotionJpeg.Ascii
