import Mathlib.Data.List.Induction
import Mathlib.Data.Nat.Digits.Defs
import MotionJpeg.Bytes.Ascii
import MotionJpeg.Proofs.Bytes.Text

/-!
# Decimal numbers

A run of digits denotes one number, however long it is, and every number has a run of digits
without a zero in front.

* `Ascii.digitsToNat_eq_ofDigits` says which number a run of digits denotes.
* `Ascii.wordOfDigits?` reads digits into a machine word, and `Ascii.toNat_wordOfDigits?`: it gives
  up exactly on numbers that do not fit.
* `Bytes.isDecimal_ofNat`: a number is written in decimal.
-/

namespace MotionJpeg

namespace Ascii

/-- One more digit at the end. -/
theorem digitsToNat_concat (digits : Bytes) (c : UInt8) :
    digitsToNat (digits ++ [c]) = digitsToNat digits * 10 + (c.toNat - 48) := by
  rw [digitsToNat, List.foldl_append]
  rfl

/-- The digits of a number count from the last one on, by powers of ten. -/
theorem digitsToNat_eq_ofDigits (digits : Bytes) :
    digitsToNat digits = Nat.ofDigits 10 (digits.reverse.map fun c => c.toNat - 48) := by
  induction digits using List.reverseRecOn with
  | nil => rfl
  | append_singleton digits c ih =>
    rw [digitsToNat_concat, ih, List.reverse_concat, List.map_cons, Nat.ofDigits_cons]
    omega

section Word

/-- The sum of two words, if it fits. -/
def checkedAdd? (a b : UInt64) : Option UInt64 :=
  if a.toNat + b.toNat < 2 ^ 64 then some (a + b) else none

/-- The product of two words, if it fits. -/
def checkedMul? (a b : UInt64) : Option UInt64 :=
  if a.toNat * b.toNat < 2 ^ 64 then some (a * b) else none

/-- The word with one more digit at its end, if it fits. -/
def pushDigit? (word : UInt64) (c : UInt8) : Option UInt64 := do
  checkedAdd? (← checkedMul? word 10) (.ofNat (c.toNat - 48))

/-- The word that a run of digits denotes. It gives up at the first step that does not fit. -/
def wordOfDigits? (digits : Bytes) : Option UInt64 := digits.foldlM pushDigit? 0

/-- One digit is put to a word exactly if the number with that digit fits. -/
theorem toNat_pushDigit? (word : UInt64) (c : UInt8) : (pushDigit? word c).map UInt64.toNat =
    if word.toNat * 10 + (c.toNat - 48) < 2 ^ 64 then some (word.toNat * 10 + (c.toNat - 48))
    else none := by
  have hdigit : (UInt64.ofNat (c.toNat - 48)).toNat = c.toNat - 48 := by
    have hc := c.toNat_lt
    exact UInt64.toNat_ofNat_of_lt (by rw [UInt64.size]; omega)
  by_cases hproduct : word.toNat * 10 < 2 ^ 64
  · have hmul : checkedMul? word 10 = some (word * 10) := if_pos hproduct
    have htens : (word * 10).toNat = word.toNat * 10 := by
      rw [UInt64.toNat_mul]
      exact Nat.mod_eq_of_lt hproduct
    rw [pushDigit?, hmul, Option.bind_eq_bind, Option.bind_some, checkedAdd?, htens, hdigit]
    split
    next h => rw [Option.map_some, UInt64.toNat_add, htens, hdigit, Nat.mod_eq_of_lt h]
    next => rfl
  · have hmul : checkedMul? word 10 = none := if_neg hproduct
    rw [pushDigit?, hmul, if_neg (by omega)]
    rfl

/-- Digits go into a word exactly if the number that they denote does. -/
theorem toNat_wordOfDigits? (digits : Bytes) : (wordOfDigits? digits).map UInt64.toNat =
    if digitsToNat digits < 2 ^ 64 then some (digitsToNat digits) else none := by
  -- The statement is for digits behind others that have gone into a word already.
  suffices h : ∀ word : UInt64, (digits.foldlM pushDigit? word).map UInt64.toNat =
      if digits.foldl (fun n c => n * 10 + (c.toNat - 48)) word.toNat < 2 ^ 64 then
        some (digits.foldl (fun n c => n * 10 + (c.toNat - 48)) word.toNat)
      else none from h 0
  intro word
  induction digits generalizing word with
  | nil =>
    rw [List.foldl_nil, if_pos word.toNat_lt]
    rfl
  | cons c digits ih =>
    have hpush := toNat_pushDigit? word c
    rw [List.foldlM_cons, List.foldl_cons]
    cases hnext : pushDigit? word c with
    | none =>
      -- More digits never denote less, so what does not fit yet never will.
      have hgrows := le_foldl_digits digits (word.toNat * 10 + (c.toNat - 48))
      have hlarge : ¬ word.toNat * 10 + (c.toNat - 48) < 2 ^ 64 := fun hfits => by
        rw [hnext, if_pos hfits] at hpush
        cases hpush
      rw [if_neg (by omega)]
      rfl
    | some next =>
      have hvalue : next.toNat = word.toNat * 10 + (c.toNat - 48) := by
        rw [hnext, Option.map_some] at hpush
        exact Option.some.inj (Option.ite_none_right_eq_some.mp hpush.symm).2.symm
      rw [← hvalue]
      exact ih next

end Word

end Ascii

namespace Bytes

/-- These digits are the number, with no zero in front of it. -/
structure IsDecimal (digits : Bytes) (n : Nat) : Prop where
  isDigit : ∀ c ∈ digits, Ascii.isDigit c = true
  digitsToNat_eq : Ascii.digitsToNat digits = n
  ne_nil : digits ≠ []
  /-- Only zero itself begins with a zero. -/
  head?_eq_zero : digits.head? = some 48 → digits = [48]

/-- A digit is written as itself. -/
theorem ofNat_of_lt : ∀ n < 10, ofNat n = [.ofNat (48 + n)] := by
  decide +kernel

/-- The last digit of a number is written behind the others. -/
theorem ofNat_of_ge {n : Nat} (h : 10 ≤ n) :
    ofNat n = ofNat (n / 10) ++ [.ofNat (48 + n % 10)] := by
  have hdigit : n % 10 < 10 := Nat.mod_lt n (by decide)
  have hlast : ofString (String.singleton (n % 10).digitChar) = [.ofNat (48 + n % 10)] := by
    rw [← ofNat_of_lt _ hdigit, ofNat, ← Nat.repr_of_lt hdigit]
    rfl
  have hrepr : toString n = toString (n / 10) ++ String.singleton (n % 10).digitChar :=
    Nat.repr_of_ge h
  rw [ofNat, hrepr, ofString_append, hlast]
  rfl

/-- A digit is the number that it stands for. -/
theorem isDecimal_digit : ∀ d < 10, IsDecimal [.ofNat (48 + d)] d := by
  have hdigit : ∀ d < 10, Ascii.isDigit (.ofNat (48 + d)) = true := by decide
  have hvalue : ∀ d < 10, Ascii.digitsToNat [.ofNat (48 + d)] = d := by decide
  intro d hd
  exact ⟨List.forall_mem_singleton.mpr (hdigit d hd), hvalue d hd, List.cons_ne_nil _ _,
    fun hzero => by rw [Option.some.inj hzero]⟩

/-- One more digit at the end of a number that is not zero. -/
theorem IsDecimal.concat {digits : Bytes} {n d : Nat} (h : IsDecimal digits n) (hn : n ≠ 0)
    (hd : d < 10) : IsDecimal (digits ++ [.ofNat (48 + d)]) (n * 10 + d) := by
  have hlast := isDecimal_digit d hd
  have hvalue : (UInt8.ofNat (48 + d)).toNat - 48 = d := by
    have h := hlast.digitsToNat_eq
    rwa [Ascii.digitsToNat, List.foldl_cons, List.foldl_nil, Nat.zero_mul, Nat.zero_add] at h
  refine ⟨List.forall_mem_append.mpr ⟨h.isDigit, hlast.isDigit⟩, ?_, by simp, fun hzero => ?_⟩
  · rw [Ascii.digitsToNat_concat, h.digitsToNat_eq, hvalue]
  · -- Only zero begins with a zero, and the number is another one.
    rw [List.head?_append_of_ne_nil _ h.ne_nil] at hzero
    have hdigits := h.digitsToNat_eq
    rw [h.head?_eq_zero hzero] at hdigits
    exact absurd hdigits.symm hn

/-- A number is written in decimal. -/
theorem isDecimal_ofNat (n : Nat) : IsDecimal (ofNat n) n := by
  induction n using Nat.strongRecOn with
  | ind n ih =>
    by_cases h : n < 10
    · rw [ofNat_of_lt n h]
      exact isDecimal_digit n h
    · have hconcat := (ih (n / 10) (by omega)).concat (by omega) (Nat.mod_lt n (by decide))
      rwa [← ofNat_of_ge (by omega), Nat.div_add_mod'] at hconcat

end Bytes

end MotionJpeg
