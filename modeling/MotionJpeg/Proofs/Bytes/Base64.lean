import MotionJpeg.Base64
import MotionJpeg.Bytes.Ascii

/-!
# The letters of Base64

The letters for a byte string tell the byte string, whatever its length is, and none of them is a
blank.

* `Base64.encode_injective`: different byte strings have different letters.
* `Base64.isBlank_of_mem_encode`: nothing of the letters is trimmed off or skipped.
-/

namespace MotionJpeg.Base64

/-- The letters of all values. -/
private theorem letter_spec : ∀ value < 64, value? (letter value) = some value ∧
    letter value ≠ pad ∧ Ascii.isBlank (letter value) = false := by
  decide

/-- Different values have different letters. -/
theorem letter_inj {a b : Nat} (ha : a < 64) (hb : b < 64) : letter a = letter b ↔ a = b := by
  refine ⟨fun h => ?_, congrArg letter⟩
  have hvalue := (letter_spec a ha).1
  rw [h, (letter_spec b hb).1] at hvalue
  exact (Option.some.inj hvalue).symm

theorem letter_ne_pad {value : Nat} (h : value < 64) : letter value ≠ pad := (letter_spec value h).2.1

theorem isBlank_letter {value : Nat} (h : value < 64) : Ascii.isBlank (letter value) = false :=
  (letter_spec value h).2.2

/-- The letters of a byte string and its padding are no blanks. -/
theorem isBlank_of_mem_encode (bytes : Bytes) : ∀ c ∈ encode bytes, Ascii.isBlank c = false := by
  have hpad : Ascii.isBlank pad = false := by decide
  induction bytes using encode.induct with
  | case1 => simp [encode]
  | case2 a =>
    have ha := a.toNat_lt
    simp only [encode, List.forall_mem_cons]
    exact ⟨isBlank_letter (by omega), isBlank_letter (by omega), hpad, hpad, by simp⟩
  | case3 a b =>
    have ha := a.toNat_lt
    have hb := b.toNat_lt
    simp only [encode, List.forall_mem_cons]
    exact ⟨isBlank_letter (by omega), isBlank_letter (by omega), isBlank_letter (by omega), hpad,
      by simp⟩
  | case4 a b c rest ih =>
    have ha := a.toNat_lt
    have hb := b.toNat_lt
    have hc := c.toNat_lt
    simp only [encode, List.forall_mem_cons]
    exact ⟨isBlank_letter (by omega), isBlank_letter (by omega), isBlank_letter (by omega),
      isBlank_letter (by omega), ih⟩

/-- Different byte strings have different letters. -/
theorem encode_injective : Function.Injective encode := by
  intro x y h
  -- The padding tells how long the last group is, and the letters tell its bytes.
  induction x using encode.induct generalizing y with
  | case1 =>
    match y, h with
    | [], _ => rfl
    | [a'], h | [a', b'], h | a' :: b' :: c' :: rest', h => simp [encode] at h
  | case2 a =>
    have ha := a.toNat_lt
    match y, h with
    | [a'], h =>
      have ha' := a'.toNat_lt
      simp only [encode, List.cons.injEq, and_true] at h
      rw [letter_inj (by omega) (by omega), letter_inj (by omega) (by omega)] at h
      obtain rfl : a = a' := UInt8.toNat_inj.mp (by omega)
      rfl
    | [a', b'], h =>
      simp only [encode, List.cons.injEq] at h
      exact absurd h.2.2.1.symm (letter_ne_pad (by omega))
    | a' :: b' :: c' :: rest', h =>
      simp only [encode, List.cons.injEq] at h
      exact absurd h.2.2.1.symm (letter_ne_pad (by omega))
  | case3 a b =>
    have ha := a.toNat_lt
    have hb := b.toNat_lt
    match y, h with
    | [a'], h =>
      simp only [encode, List.cons.injEq] at h
      exact absurd h.2.2.1 (letter_ne_pad (by omega))
    | [a', b'], h =>
      have ha' := a'.toNat_lt
      have hb' := b'.toNat_lt
      simp only [encode, List.cons.injEq, and_true] at h
      rw [letter_inj (by omega) (by omega), letter_inj (by omega) (by omega),
        letter_inj (by omega) (by omega)] at h
      obtain rfl : a = a' := UInt8.toNat_inj.mp (by omega)
      obtain rfl : b = b' := UInt8.toNat_inj.mp (by omega)
      rfl
    | a' :: b' :: c' :: rest', h =>
      simp only [encode, List.cons.injEq] at h
      exact absurd h.2.2.2.1.symm (letter_ne_pad (by omega))
  | case4 a b c rest ih =>
    have ha := a.toNat_lt
    have hb := b.toNat_lt
    have hc := c.toNat_lt
    match y, h with
    | [a'], h =>
      simp only [encode, List.cons.injEq] at h
      exact absurd h.2.2.1 (letter_ne_pad (by omega))
    | [a', b'], h =>
      simp only [encode, List.cons.injEq] at h
      exact absurd h.2.2.2.1 (letter_ne_pad (by omega))
    | a' :: b' :: c' :: rest', h =>
      have ha' := a'.toNat_lt
      have hb' := b'.toNat_lt
      have hc' := c'.toNat_lt
      simp only [encode, List.cons.injEq] at h
      obtain ⟨hfirst, hsecond, hthird, hfourth, hrest⟩ := h
      rw [letter_inj (by omega) (by omega)] at hfirst hsecond hthird hfourth
      obtain rfl : a = a' := UInt8.toNat_inj.mp (by omega)
      obtain rfl : b = b' := UInt8.toNat_inj.mp (by omega)
      obtain rfl : c = c' := UInt8.toNat_inj.mp (by omega)
      rw [ih hrest]

end MotionJpeg.Base64
