import Mathlib.Data.Nat.Digits.Defs
import MotionJpeg.Options

/-!
# Rates

A rate on a command line is a number in decimal. Zeros may stand in front of it, and a plus sign
before them, but no other sign and no blank anywhere.

* `Options.IsRate` says which words are rates.
* `Reader.whole?_number_ten_eq_some_iff`: the numerals that are read as a whole.
* `Options.fps?_eq_some_iff`: the words that are read as rates.
-/

namespace MotionJpeg

namespace Reader

theorem isDigit_iff (c : Char) : c.isDigit = true ↔ '0' ≤ c ∧ c ≤ '9' := by
  rw [Char.isDigit, Bool.and_eq_true, decide_eq_true_iff, decide_eq_true_iff]
  exact Iff.rfl

theorem toNat_mono {a b : Char} (h : a ≤ b) : a.toNat ≤ b.toNat := UInt32.le_iff_toNat_le.mp h

/-- Of the characters that count in some base up to sixteen the decimal digits count in base ten. -/
theorem digit?_ten (c : Char) :
    digit? 10 c = if c.isDigit = true then some (c.toNat - 48) else none := by
  rw [digit?]
  by_cases hdigit : '0' ≤ c ∧ c ≤ '9'
  · have hle : c.toNat ≤ 57 := toNat_mono hdigit.2
    rw [if_pos hdigit, if_pos ((isDigit_iff c).mpr hdigit)]
    refine Option.filter_some_pos ?_
    rw [decide_eq_true_iff]
    omega
  · rw [if_neg hdigit, if_neg fun h => hdigit ((isDigit_iff c).mp h)]
    split
    next hlower =>
      have hle : 97 ≤ c.toNat := toNat_mono hlower.1
      refine Option.filter_some_neg ?_
      rw [decide_eq_false_iff_not]
      omega
    next =>
      split
      next hupper =>
        have hle : 65 ≤ c.toNat := toNat_mono hupper.1
        refine Option.filter_some_neg ?_
        rw [decide_eq_false_iff_not]
        omega
      next => rfl

/-- Digits at the front of a text are read, and then nothing is left if they are all of it. -/
theorem digits_ten_of_forall {chars : List Char} (h : ∀ c ∈ chars, c.isDigit = true) :
    digits 10 chars = (chars.map fun c => c.toNat - 48, []) := by
  induction chars with
  | nil => rfl
  | cons c rest ih =>
    rw [List.forall_mem_cons] at h
    rw [digits, digit?_ten, if_pos h.1, ih h.2]
    rfl

/-- If nothing is left behind the digits of a text, it is digits. -/
theorem forall_isDigit_of_digits {chars : List Char} (h : (digits 10 chars).2 = []) :
    ∀ c ∈ chars, c.isDigit = true := by
  induction chars with
  | nil => simp
  | cons c rest ih =>
    rw [digits, digit?_ten] at h
    by_cases hdigit : c.isDigit = true
    · rw [if_pos hdigit] at h
      rw [List.forall_mem_cons]
      exact ⟨hdigit, ih h⟩
    · rw [if_neg hdigit] at h
      cases h

/-- The number that some digits denote, counted up to a bound. -/
theorem valueUpTo_ten (bound : Nat) (chars : List Char) :
    valueUpTo 10 bound (chars.map fun c => c.toNat - 48) =
      min bound (Nat.ofDigits 10 (chars.reverse.map fun c => c.toNat - 48)) := by
  have hstep : (fun n d : Nat => n * 10 + d) = fun n d => d + 10 * n := by
    funext n d
    omega
  rw [valueUpTo_eq _ _ _ (by decide), Nat.ofDigits_eq_foldr, List.map_reverse, List.foldr_reverse,
    hstep]
  rfl

/-- The decimal numerals below a bound are read, and no other text is read as a whole. -/
theorem whole?_number_ten_eq_some_iff {bound : Nat} {chars : List Char} {n : Nat} :
    whole? (number 10 bound none true) (String.ofList chars) = some n ↔
      chars ≠ [] ∧ (∀ c ∈ chars, c.isDigit = true) ∧
        Nat.ofDigits 10 (chars.reverse.map fun c => c.toNat - 48) = n ∧ n < bound := by
  rw [whole?, String.toList_ofList, number]
  by_cases hdigits : ∀ c ∈ chars, c.isDigit = true
  · -- All of the text is read, and it is refused if it is empty or denotes too much.
    simp only [digits_ten_of_forall hdigits, valueUpTo_ten]
    generalize Nat.ofDigits 10 (chars.reverse.map fun c => c.toNat - 48) = value
    by_cases hrefused : chars = [] ∨ bound ≤ value
    · have hlarge : chars = [] ∨ bound ≤ min bound value :=
        hrefused.imp_right fun hle => Nat.le_min.mpr ⟨Nat.le_refl _, hle⟩
      rw [if_pos (by simpa using hlarge)]
      refine iff_of_false (by simp) ?_
      rintro ⟨hne, -, rfl, hlt⟩
      exact hrefused.elim hne (Nat.not_le.mpr hlt)
    · obtain ⟨hne, hsmall⟩ := not_or.mp hrefused
      have hmin : min bound value = value := Nat.min_eq_right (Nat.le_of_not_le hsmall)
      rw [hmin, if_neg (by simpa [hne] using hsmall)]
      constructor
      · intro h
        cases h
        exact ⟨hne, hdigits, rfl, Nat.not_le.mp hsmall⟩
      · rintro ⟨-, -, rfl, -⟩
        rfl
  · -- Something is left, so the text is not read as a whole.
    have hrest : (digits 10 chars).2 ≠ [] := fun hnil => hdigits (forall_isDigit_of_digits hnil)
    refine iff_of_false ?_ fun h => hdigits h.2.1
    cases hread : digits 10 chars with
    | mk values rest =>
      rw [hread] at hrest
      dsimp only
      split
      next hnumber =>
        split at hnumber
        · cases hnumber
        · cases hnumber
          exact absurd rfl hrest
      · simp

end Reader

namespace Options

/-- The word is a number of at most thirty-two bits in decimal, with a plus sign before it or
not. -/
def IsRate (word : String) (rate : Nat) : Prop :=
  ∃ digits : List Char, (word.toList = digits ∨ word.toList = '+' :: digits) ∧ digits ≠ [] ∧
    (∀ c ∈ digits, c.isDigit = true) ∧
    Nat.ofDigits 10 (digits.reverse.map fun c => c.toNat - 48) = rate ∧ rate < 2 ^ 32

/-- The words that are read as rates. -/
theorem fps?_eq_some_iff {word : String} {rate : Nat} :
    fps? word = some rate ↔ IsRate word rate := by
  rw [fps?, Reader.whole?_number_ten_eq_some_iff, IsRate]
  constructor
  · intro h
    split at h
    next digits hword => exact ⟨digits, .inr hword, h⟩
    next => exact ⟨word.toList, .inl rfl, h⟩
  · rintro ⟨digits, hword | hword, h⟩
    · rw [hword]
      split
      next rest =>
        -- A plus sign is no digit.
        exact absurd (h.2.1 '+' List.mem_cons_self) (by decide)
      next => exact h
    · rw [hword]
      exact h

end Options

end MotionJpeg
