import Mathlib.Data.List.Basic
import MotionJpeg.Bytes.Utf8

/-!
# Texts as byte strings

The byte form of a text is a sequence of whole characters, whatever the text is, and tells the
text. Every sequence of whole characters is the form of a text, so byte strings can be shown once
they are repaired.

* `Utf8.isValid_iff_exists_ofString`: well formed are the byte forms of texts, and nothing else.
* `Bytes.ofString_injective`: different texts have different byte forms.
* `Bytes.ofString_toText`: the text that is shown for a byte string is that of the repaired bytes.
-/

namespace MotionJpeg

namespace Utf8

namespace State

/-- A byte lies between two others if the number does that it is made of. -/
theorem within_ofNat {low high : UInt8} {n : Nat} (hlow : low.toNat ≤ n) (hhigh : n ≤ high.toNat)
    (next : State) : within low high next (.ofNat n) = some next := by
  have hbyte : (UInt8.ofNat n).toNat = n :=
    UInt8.toNat_ofNat_of_lt' (Nat.lt_of_le_of_lt hhigh high.toNat_lt)
  simp [within, UInt8.le_iff_toNat_le, hbyte, hlow, hhigh]

/-- The first byte of a character, by the number that it is made of. -/
theorem lead_ofNat {n : Nat} (h : n < 256) : lead (.ofNat n) =
    if n < 0x80 then some boundary
    else if n < 0xC2 then none
    else if n < 0xE0 then some (owes 0)
    else if n = 0xE0 then some afterE0
    else if n = 0xED then some afterED
    else if n < 0xF0 then some (owes 1)
    else if n = 0xF0 then some afterF0
    else if n < 0xF4 then some (owes 2)
    else if n = 0xF4 then some afterF4
    else none := by
  have hbyte : (UInt8.ofNat n).toNat = n := UInt8.toNat_ofNat_of_lt' h
  simp only [lead, UInt8.lt_iff_toNat_lt, ← UInt8.toNat_inj, hbyte]
  rfl

end State

section Character

/-- What a byte that continues a character is made of. -/
private def IsTail (n : Nat) : Prop := 0x80 ≤ n ∧ n ≤ 0xBF

/-- The last six bits of a number make a byte that continues a character. -/
private theorem isTail_mod (v : Nat) : IsTail (v % 64 + 128) := by
  unfold IsTail
  omega

variable {a b c : Nat}

private theorem run_owes_zero (ha : IsTail a) : run (.owes 0) [.ofNat a] = some .boundary := by
  rw [run, State.step, State.within_ofNat ha.1 ha.2]
  rfl

private theorem run_owes_one (ha : IsTail a) (hb : IsTail b) :
    run (.owes 1) [.ofNat a, .ofNat b] = some .boundary := by
  rw [run, State.step, State.within_ofNat ha.1 ha.2]
  exact run_owes_zero hb

private theorem run_owes_two (ha : IsTail a) (hb : IsTail b) (hc : IsTail c) :
    run (.owes 2) [.ofNat a, .ofNat b, .ofNat c] = some .boundary := by
  rw [run, State.step, State.within_ofNat ha.1 ha.2]
  exact run_owes_one hb hc

/-- One character is read from its first byte to its last. -/
theorem run_utf8EncodeChar (char : Char) :
    run .boundary (String.utf8EncodeChar char) = some .boundary := by
  have hvalid : char.val.toNat < 0xD800 ∨ 0xDFFF < char.val.toNat ∧ char.val.toNat < 0x110000 :=
    char.valid
  rw [String.utf8EncodeChar]
  generalize char.val.toNat = v at hvalid
  by_cases hone : v ≤ 0x7F
  · rw [if_pos hone, run, State.step, State.lead_ofNat (by omega), if_pos (by omega)]
    rfl
  by_cases htwo : v ≤ 0x7FF
  · rw [if_neg hone, if_pos htwo, run, State.step, State.lead_ofNat (by omega)]
    simp (disch := omega) only [if_neg, if_pos]
    exact run_owes_zero (isTail_mod v)
  by_cases hthree : v ≤ 0xFFFF
  · rw [if_neg hone, if_neg htwo, if_pos hthree, run, State.step, State.lead_ofNat (by omega)]
    -- The second byte is bounded below after `E0`, and above after `ED`, as surrogates are no
    -- characters.
    by_cases hfirst : v < 0x1000
    · simp (disch := omega) only [if_neg, if_pos]
      rw [run, State.step, State.within_ofNat (by simp; omega) (by simp; omega)]
      exact run_owes_zero (isTail_mod v)
    by_cases hsurrogates : v / 4096 = 13
    · simp (disch := omega) only [if_neg, if_pos]
      rw [run, State.step, State.within_ofNat (by simp) (by simp; omega)]
      exact run_owes_zero (isTail_mod v)
    · simp (disch := omega) only [if_neg, if_pos]
      exact run_owes_one (isTail_mod _) (isTail_mod v)
  · rw [if_neg hone, if_neg htwo, if_neg hthree, run, State.step, State.lead_ofNat (by omega)]
    -- The second byte is bounded below after `F0`, and above after `F4`, where characters end.
    by_cases hfirst : v < 0x40000
    · simp (disch := omega) only [if_neg, if_pos]
      rw [run, State.step, State.within_ofNat (by simp; omega) (by simp; omega)]
      exact run_owes_one (isTail_mod _) (isTail_mod v)
    by_cases hlast : v < 0x100000
    · simp (disch := omega) only [if_neg, if_pos]
      exact run_owes_two (isTail_mod _) (isTail_mod _) (isTail_mod v)
    · simp (disch := omega) only [if_neg, if_pos]
      rw [run, State.step, State.within_ofNat (by simp) (by simp; omega)]
      exact run_owes_one (isTail_mod _) (isTail_mod v)

end Character

section Decode

variable {a b c d : Nat} {bytes : Bytes}

/-- Inside of a character the next byte is one of a range, and reading goes on behind it. -/
private theorem exists_of_run {state next : State} {low high : UInt8}
    (h : run state bytes = some .boundary) (hstate : state ≠ .boundary)
    (hstep : ∀ c, state.step c = State.within low high next c) :
    ∃ n rest, (low.toNat ≤ n ∧ n ≤ high.toNat) ∧ bytes = .ofNat n :: rest ∧
      run next rest = some .boundary := by
  cases bytes with
  | nil => exact absurd (Option.some.inj h) hstate
  | cons c rest =>
    rw [run, hstep, State.within] at h
    by_cases hrange : (low ≤ c && c ≤ high) = true
    · rw [if_pos hrange] at h
      simp only [Bool.and_eq_true, decide_eq_true_eq] at hrange
      exact ⟨c.toNat, rest, hrange, by rw [UInt8.ofNat_toNat], h⟩
    · rw [if_neg hrange] at h
      cases h

private theorem exists_of_run_owes_zero (h : run (.owes 0) bytes = some .boundary) :
    ∃ a rest, IsTail a ∧ bytes = .ofNat a :: rest ∧ run .boundary rest = some .boundary :=
  exists_of_run h nofun fun _ => rfl

private theorem exists_of_run_owes_one (h : run (.owes 1) bytes = some .boundary) :
    ∃ a b rest, IsTail a ∧ IsTail b ∧ bytes = .ofNat a :: .ofNat b :: rest ∧
      run .boundary rest = some .boundary := by
  obtain ⟨a, tail, ha, rfl, htail⟩ := exists_of_run h nofun fun _ => rfl
  obtain ⟨b, rest, hb, rfl, hrest⟩ := exists_of_run_owes_zero htail
  exact ⟨a, b, rest, ha, hb, rfl, hrest⟩

/-- The first of three bytes bounds the second one. -/
private theorem exists_of_lead_three {state : State} (hfrom : 0xE0 ≤ a) (hto : a < 0xF0)
    (hlead : State.lead (.ofNat a) = some state) : state ≠ .boundary ∧
      ∃ low high, (∀ c, state.step c = State.within low high (.owes 0) c) ∧
        (0x80 ≤ low.toNat ∧ high.toNat ≤ 0xBF) ∧ (a = 0xE0 → 0xA0 ≤ low.toNat) ∧
        (a = 0xED → high.toNat ≤ 0x9F) := by
  rw [State.lead_ofNat (by omega)] at hlead
  simp (disch := omega) only [if_neg, if_pos] at hlead
  by_cases hfirst : a = 0xE0
  · rw [if_pos hfirst] at hlead
    cases hlead
    exact ⟨nofun, 0xA0, 0xBF, fun _ => rfl, by decide, fun _ => by decide, by omega⟩
  rw [if_neg hfirst] at hlead
  by_cases hsurrogates : a = 0xED
  · rw [if_pos hsurrogates] at hlead
    cases hlead
    exact ⟨nofun, 0x80, 0x9F, fun _ => rfl, by decide, by omega, fun _ => by decide⟩
  · rw [if_neg hsurrogates] at hlead
    cases hlead
    exact ⟨nofun, 0x80, 0xBF, fun _ => rfl, by decide, by omega, by omega⟩

/-- The first of four bytes bounds the second one. -/
private theorem exists_of_lead_four {state : State} (hfrom : 0xF0 ≤ a) (hlt : a < 256)
    (hlead : State.lead (.ofNat a) = some state) : a ≤ 0xF4 ∧ state ≠ .boundary ∧
      ∃ low high, (∀ c, state.step c = State.within low high (.owes 1) c) ∧
        (0x80 ≤ low.toNat ∧ high.toNat ≤ 0xBF) ∧ (a = 0xF0 → 0x90 ≤ low.toNat) ∧
        (a = 0xF4 → high.toNat ≤ 0x8F) := by
  rw [State.lead_ofNat hlt] at hlead
  simp (disch := omega) only [if_neg] at hlead
  by_cases hfirst : a = 0xF0
  · rw [if_pos hfirst] at hlead
    cases hlead
    exact ⟨by omega, nofun, 0x90, 0xBF, fun _ => rfl, by decide, fun _ => by decide, by omega⟩
  rw [if_neg hfirst] at hlead
  by_cases hmiddle : a < 0xF4
  · rw [if_pos hmiddle] at hlead
    cases hlead
    exact ⟨by omega, nofun, 0x80, 0xBF, fun _ => rfl, by decide, by omega, by omega⟩
  rw [if_neg hmiddle] at hlead
  by_cases hlast : a = 0xF4
  · rw [if_pos hlast] at hlead
    cases hlead
    exact ⟨by omega, nofun, 0x80, 0x8F, fun _ => rfl, by decide, by omega, fun _ => by decide⟩
  · rw [if_neg hlast] at hlead
    cases hlead

/-- There is a character for every number but those of surrogates. -/
private theorem exists_char {v : Nat} (hvalid : v < 0xD800 ∨ 0xDFFF < v ∧ v < 0x110000) :
    ∃ char : Char, char.val.toNat = v :=
  ⟨⟨.ofNatLT v (by simp only [UInt32.size]; omega), hvalid⟩, rfl⟩

private theorem exists_utf8EncodeChar_one (ha : a < 0x80) :
    ∃ char, String.utf8EncodeChar char = [.ofNat a] := by
  obtain ⟨char, hchar⟩ := exists_char (v := a) (by omega)
  refine ⟨char, ?_⟩
  rw [String.utf8EncodeChar, hchar, if_pos (by omega)]

private theorem exists_utf8EncodeChar_two (hfrom : 0xC2 ≤ a) (hto : a < 0xE0) (hb : IsTail b) :
    ∃ char, String.utf8EncodeChar char = [.ofNat a, .ofNat b] := by
  unfold IsTail at hb
  obtain ⟨v, hv⟩ : ∃ v, v = (a - 0xC0) * 64 + (b - 0x80) := ⟨_, rfl⟩
  obtain ⟨char, hchar⟩ := exists_char (v := v) (by omega)
  refine ⟨char, ?_⟩
  have hlead : v / 64 % 0x20 + 0xC0 = a := by omega
  have hsecond : v % 0x40 + 0x80 = b := by omega
  rw [String.utf8EncodeChar, hchar, if_neg (by omega), if_pos (by omega), hlead, hsecond]

/-- Three bytes are a character if they are no longer form of one and no surrogate. -/
private theorem exists_utf8EncodeChar_three (hfrom : 0xE0 ≤ a) (hto : a < 0xF0) (hb : IsTail b)
    (hc : IsTail c) (hfirst : a = 0xE0 → 0xA0 ≤ b) (hsurrogates : a = 0xED → b ≤ 0x9F) :
    ∃ char, String.utf8EncodeChar char = [.ofNat a, .ofNat b, .ofNat c] := by
  unfold IsTail at hb hc
  obtain ⟨v, hv⟩ : ∃ v, v = (a - 0xE0) * 4096 + (b - 0x80) * 64 + (c - 0x80) := ⟨_, rfl⟩
  obtain ⟨char, hchar⟩ := exists_char (v := v) (by omega)
  refine ⟨char, ?_⟩
  have hlead : v / 4096 % 0x10 + 0xE0 = a := by omega
  have hsecond : v / 64 % 0x40 + 0x80 = b := by omega
  have hthird : v % 0x40 + 0x80 = c := by omega
  rw [String.utf8EncodeChar, hchar, if_neg (by omega), if_neg (by omega), if_pos (by omega), hlead,
    hsecond, hthird]

/-- Four bytes are a character if they are no longer form of one and there are that many. -/
private theorem exists_utf8EncodeChar_four (hfrom : 0xF0 ≤ a) (hto : a ≤ 0xF4) (hb : IsTail b)
    (hc : IsTail c) (hd : IsTail d) (hfirst : a = 0xF0 → 0x90 ≤ b) (hlast : a = 0xF4 → b ≤ 0x8F) :
    ∃ char, String.utf8EncodeChar char = [.ofNat a, .ofNat b, .ofNat c, .ofNat d] := by
  unfold IsTail at hb hc hd
  obtain ⟨v, hv⟩ : ∃ v, v = (a - 0xF0) * 262144 + (b - 0x80) * 4096 + (c - 0x80) * 64 +
    (d - 0x80) := ⟨_, rfl⟩
  obtain ⟨char, hchar⟩ := exists_char (v := v) (by omega)
  refine ⟨char, ?_⟩
  have hlead : v / 262144 % 0x08 + 0xF0 = a := by omega
  have hsecond : v / 4096 % 0x40 + 0x80 = b := by omega
  have hthird : v / 64 % 0x40 + 0x80 = c := by omega
  have hfourth : v % 0x40 + 0x80 = d := by omega
  rw [String.utf8EncodeChar, hchar, if_neg (by omega), if_neg (by omega), if_neg (by omega), hlead,
    hsecond, hthird, hfourth]

/-- The bytes are one character and then others that are whole. -/
private def BeginsWithChar (bytes : Bytes) : Prop :=
  ∃ char rest, bytes = String.utf8EncodeChar char ++ rest ∧ run .boundary rest = some .boundary

section Lead

variable {state : State} (hlead : State.lead (.ofNat a) = some state)
  (h : run state bytes = some .boundary)

include hlead h

private theorem beginsWithChar_one (hto : a < 0x80) : BeginsWithChar (.ofNat a :: bytes) := by
  rw [State.lead_ofNat (by omega), if_pos hto] at hlead
  cases hlead
  obtain ⟨char, hchar⟩ := exists_utf8EncodeChar_one hto
  exact ⟨char, bytes, by rw [hchar]; rfl, h⟩

private theorem beginsWithChar_two (hfrom : 0x80 ≤ a) (hto : a < 0xE0) :
    BeginsWithChar (.ofNat a :: bytes) := by
  rw [State.lead_ofNat (by omega), if_neg (Nat.not_lt.mpr hfrom)] at hlead
  -- The bytes between `80` and `C1` begin no character.
  by_cases hnone : a < 0xC2
  · rw [if_pos hnone] at hlead
    cases hlead
  rw [if_neg hnone, if_pos hto] at hlead
  cases hlead
  obtain ⟨b, rest, hb, rfl, hrest⟩ := exists_of_run_owes_zero h
  obtain ⟨char, hchar⟩ := exists_utf8EncodeChar_two (Nat.not_lt.mp hnone) hto hb
  exact ⟨char, rest, by rw [hchar]; rfl, hrest⟩

private theorem beginsWithChar_three (hfrom : 0xE0 ≤ a) (hto : a < 0xF0) :
    BeginsWithChar (.ofNat a :: bytes) := by
  obtain ⟨hstate, low, high, hstep, hrange, hfirst, hsurrogates⟩ :=
    exists_of_lead_three hfrom hto hlead
  obtain ⟨b, tail, hb, rfl, htail⟩ := exists_of_run h hstate hstep
  obtain ⟨c, rest, hc, rfl, hrest⟩ := exists_of_run_owes_zero htail
  have hsecond : IsTail b := ⟨Nat.le_trans hrange.1 hb.1, Nat.le_trans hb.2 hrange.2⟩
  obtain ⟨char, hchar⟩ := exists_utf8EncodeChar_three hfrom hto hsecond hc
    (fun heq => Nat.le_trans (hfirst heq) hb.1) (fun heq => Nat.le_trans hb.2 (hsurrogates heq))
  exact ⟨char, rest, by rw [hchar]; rfl, hrest⟩

private theorem beginsWithChar_four (hfrom : 0xF0 ≤ a) (hlt : a < 256) :
    BeginsWithChar (.ofNat a :: bytes) := by
  obtain ⟨hto, hstate, low, high, hstep, hrange, hfirst, hlast⟩ :=
    exists_of_lead_four hfrom hlt hlead
  obtain ⟨b, tail, hb, rfl, htail⟩ := exists_of_run h hstate hstep
  obtain ⟨c, d, rest, hc, hd, rfl, hrest⟩ := exists_of_run_owes_one htail
  have hsecond : IsTail b := ⟨Nat.le_trans hrange.1 hb.1, Nat.le_trans hb.2 hrange.2⟩
  obtain ⟨char, hchar⟩ := exists_utf8EncodeChar_four hfrom hto hsecond hc hd
    (fun heq => Nat.le_trans (hfirst heq) hb.1) (fun heq => Nat.le_trans hb.2 (hlast heq))
  exact ⟨char, rest, by rw [hchar]; rfl, hrest⟩

end Lead

/-- Whole characters begin with one, whose first byte tells how long it is. -/
private theorem beginsWithChar_of_run {first : UInt8}
    (h : run .boundary (first :: bytes) = some .boundary) : BeginsWithChar (first :: bytes) := by
  obtain ⟨a, hlt, rfl⟩ : ∃ a, a < 256 ∧ UInt8.ofNat a = first :=
    ⟨first.toNat, first.toNat_lt, UInt8.ofNat_toNat⟩
  rw [run, State.step] at h
  cases hlead : State.lead (.ofNat a) with
  | none =>
    rw [hlead] at h
    cases h
  | some state =>
    rw [hlead] at h
    by_cases hone : a < 0x80
    · exact beginsWithChar_one hlead h hone
    by_cases htwo : a < 0xE0
    · exact beginsWithChar_two hlead h (Nat.not_lt.mp hone) htwo
    by_cases hthree : a < 0xF0
    · exact beginsWithChar_three hlead h (Nat.not_lt.mp htwo) hthree
    · exact beginsWithChar_four hlead h (Nat.not_lt.mp hthree) hlt

end Decode

end Utf8

namespace Bytes

theorem ofString_eq (s : String) : ofString s = s.toByteArray.data.toList := rfl

/-- The byte form of two texts, one after the other. -/
theorem ofString_append (s t : String) : ofString (s ++ t) = ofString s ++ ofString t := by
  simp [ofString_eq]

/-- The byte form of a text tells the text. -/
theorem ofString_injective : Function.Injective ofString := by
  intro s t h
  exact String.toByteArray_inj.mp (ByteArray.ext (Array.ext' h))

end Bytes

/-- The byte form of a text is well formed. -/
theorem Utf8.isValid_ofString (s : String) : isValid (.ofString s) = true := by
  obtain ⟨chars, hchars⟩ := s.isValidUTF8
  rw [Bytes.ofString_eq, hchars, List.utf8Encode, List.toList_data_toByteArray]
  -- Character by character, each of which ends where the next one begins.
  clear hchars
  induction chars with
  | nil => rfl
  | cons char chars ih =>
    rw [List.flatMap_cons]
    exact isValid_append (by simp [isValid, run_utf8EncodeChar]) ih

namespace Utf8

/-- Whole characters are the form of some characters. -/
private theorem exists_chars_of_run {bytes : Bytes} (h : run .boundary bytes = some .boundary) :
    ∃ chars : List Char, chars.flatMap String.utf8EncodeChar = bytes := by
  -- On the length, as each character takes away some bytes.
  induction hlength : bytes.length using Nat.strongRecOn generalizing bytes with
  | ind length ih =>
    cases bytes with
    | nil => exact ⟨[], rfl⟩
    | cons first bytes =>
      obtain ⟨char, rest, heq, hrest⟩ := beginsWithChar_of_run h
      have hshorter : rest.length < length := by
        rw [← hlength, heq, List.length_append, String.length_utf8EncodeChar]
        exact Nat.lt_add_of_pos_left char.utf8Size_pos
      obtain ⟨chars, hchars⟩ := ih rest.length hshorter hrest rfl
      exact ⟨char :: chars, by rw [List.flatMap_cons, hchars, heq]⟩

/-- Well formed are the byte forms of texts, and nothing else. -/
theorem isValid_iff_exists_ofString {bytes : Bytes} :
    isValid bytes = true ↔ ∃ s, Bytes.ofString s = bytes := by
  constructor
  · intro h
    obtain ⟨chars, hchars⟩ := exists_chars_of_run (beq_iff_eq.mp h)
    refine ⟨⟨chars.utf8Encode, ⟨chars, rfl⟩⟩, ?_⟩
    rw [Bytes.ofString_eq, ← hchars]
    exact List.toList_data_toByteArray
  · rintro ⟨s, rfl⟩
    exact isValid_ofString s

/-- What is put in the place of the bytes that are no character are characters. -/
private theorem isValid_repairFrom {state : State} {begun : Bytes}
    (hbegun : run .boundary begun.reverse = some state) (bytes : Bytes) :
    isValid (repairFrom state begun bytes) = true := by
  have hreplaced : isValid (if begun.isEmpty then [] else replacement) = true := by
    split <;> rfl
  induction bytes generalizing state begun with
  | nil => exact hreplaced
  | cons c rest ih =>
    have hempty : run .boundary ([] : Bytes).reverse = some .boundary := rfl
    have hread : run .boundary (c :: begun).reverse = state.step c := by
      rw [List.reverse_cons, run_append, hbegun, Option.bind_some, run]
      cases state.step c <;> rfl
    have hlead : run .boundary [c] = State.lead c := by
      rw [run, State.step]
      cases State.lead c <;> rfl
    rw [repairFrom]
    split
    next hstep =>
      rw [hstep] at hread
      exact isValid_append (beq_iff_eq.mpr hread) (ih hempty rfl)
    next next hstep =>
      exact ih (hread.trans hstep) (by rfl)
    next =>
      apply isValid_append hreplaced
      split
      next hstep => exact isValid_append (beq_iff_eq.mpr (hlead.trans hstep)) (ih hempty rfl)
      next next hstep => exact ih (hlead.trans hstep) (by rfl)
      next => exact isValid_append rfl (ih hempty rfl)

/-- Repaired bytes are well formed. -/
theorem isValid_repair (bytes : Bytes) : isValid (repair bytes) = true :=
  isValid_repairFrom rfl bytes

end Utf8

namespace Bytes

/-- A text is read back from its byte form. -/
theorem toText?_ofString (s : String) : toText? (ofString s) = some s := by
  rw [toText?, ofString_eq, String.fromUTF8?, dif_pos s.isValidUTF8]
  rfl

/-- The text that is shown for a byte string is that of the repaired bytes. -/
theorem ofString_toText (bytes : Bytes) : ofString bytes.toText = Utf8.repair bytes := by
  obtain ⟨s, hs⟩ := Utf8.isValid_iff_exists_ofString.mp (Utf8.isValid_repair bytes)
  rw [toText, ← hs, toText?_ofString, Option.getD_some]

/-- A byte that begins no character is shown as a replacement character. -/
example : toText [47, 0xFF, 97] = "/\uFFFDa" := by decide +kernel

/-- Nothing is to be repaired in the byte form of a text. -/
theorem toText_ofString (s : String) : (ofString s).toText = s := by
  apply ofString_injective
  rw [ofString_toText, Utf8.repair_of_isValid (Utf8.isValid_ofString s)]

end Bytes

end MotionJpeg
