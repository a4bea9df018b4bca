import Mathlib.Data.List.TakeWhile
import MotionJpeg.Bytes.Ascii
import MotionJpeg.Bytes.Utf8

/-!
# Between two characters

A text can be cut between two characters and nowhere else, and then both pieces are texts. On either
side of an ASCII byte it can always be cut, as no longer character has such a byte in it.

* `Utf8.IsBoundary`: the bytes before a place are whole characters.
* `Utf8.isBoundary_iff`: the one byte at a place of a text tells whether this is so.
* `Utf8.isValid_append_cons_iff`: a text is cut at an ASCII byte.
* `Utf8.isValid_eq_of_equalsIgnoreCase`: the case of letters does not matter for this.
-/

namespace MotionJpeg

namespace Ascii

variable {c : UInt8}

theorem isBlank_of_isSpaceOrTab (h : isSpaceOrTab c = true) : isBlank c = true := by
  simp [isBlank, h]

theorem lt_of_isBlank (h : isBlank c = true) : c < 0x80 := by
  simp only [isBlank, isSpaceOrTab, Bool.or_eq_true, beq_iff_eq] at h
  rcases h with (((rfl | rfl) | rfl) | rfl) | rfl <;> decide

theorem lt_of_isSpaceOrTab (h : isSpaceOrTab c = true) : c < 0x80 :=
  lt_of_isBlank (isBlank_of_isSpaceOrTab h)

theorem lt_of_isDigit (h : isDigit c = true) : c < 0x80 := by
  simp only [isDigit, Bool.and_eq_true, decide_eq_true_eq] at h
  exact UInt8.lt_of_le_of_lt h.2 (by decide)

/-- The same word in other letters is as long. -/
theorem length_eq_of_equalsIgnoreCase {a b : Bytes} (h : equalsIgnoreCase a b = true) :
    a.length = b.length := by
  have hlength := congrArg List.length (beq_iff_eq.mp h)
  rwa [List.length_map, List.length_map] at hlength

/-- What begins with a word is at least as long. -/
theorem length_le_of_equalsIgnoreCase_take {text word : Bytes}
    (h : equalsIgnoreCase (text.take word.length) word = true) : word.length ≤ text.length := by
  have htake := length_eq_of_equalsIgnoreCase h
  rw [List.length_take] at htake
  omega

end Ascii

namespace Utf8

variable {a b text : Bytes} {c : UInt8} {i : Nat}

/-- The byte begins a character, as only the continuation bytes do not. -/
def beginsCharacter (c : UInt8) : Bool := c < 0x80 || 0xC0 ≤ c

/-- Whether a text may be cut at a place, by the one byte there: at its ends, and where a character
begins. -/
def isBoundary (text : Bytes) (i : Nat) : Bool :=
  i == 0 ||
    match text[i]? with
    | some c => beginsCharacter c
    | none => i == text.length

/-- The place lies in the text, and what stands before it are whole characters. -/
structure IsBoundary (text : Bytes) (i : Nat) : Prop where
  le_length : i ≤ text.length
  isValid_take : isValid (text.take i) = true

namespace State

variable {state next : State} {low high : UInt8}

theorem within_eq_some_iff :
    within low high next c = some state ↔ (low ≤ c ∧ c ≤ high) ∧ next = state := by
  simp [within]

/-- A byte below `80` is read between two characters only, and is one by itself. -/
theorem step_of_lt (hc : c < 0x80) (state : State) :
    state.step c = if state = .boundary then some .boundary else none := by
  -- Inside of a character only bytes of a range above `7F` are read.
  have hwithin {low high : UInt8} {next : State} (hlow : 0x80 ≤ low) :
      within low high next c = none := by
    simp only [within, Bool.and_eq_true, decide_eq_true_eq, ite_eq_right_iff, reduceCtorEq, imp_false,
      UInt8.le_iff_toNat_le, UInt8.lt_iff_toNat_lt] at hlow hc ⊢
    omega
  match state with
  | boundary => exact if_pos hc
  | owes 0 | owes 1 | owes 2 | afterE0 | afterED | afterF0 | afterF4 =>
    exact hwithin (by decide)

/-- Where a text goes on, the next byte tells whether a character was begun. -/
theorem eq_boundary_iff_of_step (h : state.step c = some next) :
    state = .boundary ↔ beginsCharacter c = true := by
  -- Inside of a character only continuation bytes are read.
  have hinside {low high : UInt8} {other : State} (hlow : 0x80 ≤ low) (hhigh : high < 0xC0)
      (hwithin : within low high other c = some next) : ¬ beginsCharacter c = true := by
    obtain ⟨⟨hfrom, hto⟩, -⟩ := within_eq_some_iff.mp hwithin
    simp only [beginsCharacter, Bool.or_eq_true, decide_eq_true_eq, UInt8.le_iff_toNat_le,
      UInt8.lt_iff_toNat_lt] at *
    omega
  match state with
  | boundary =>
    refine iff_of_true rfl ?_
    by_contra hcontinues
    simp only [beginsCharacter, Bool.or_eq_true, decide_eq_true_eq, not_or] at hcontinues
    have hlow : c < 0xC2 := UInt8.lt_trans (UInt8.not_le.mp hcontinues.2) (by decide)
    rw [step, lead, if_neg hcontinues.1, if_pos hlow] at h
    cases h
  | owes 0 | owes 1 | owes 2 | afterE0 | afterED | afterF0 | afterF4 =>
    exact iff_of_false nofun (hinside (by decide) (by decide) h)

end State

section Cuts

/-- What follows whole characters is a text exactly if the two are one together. -/
theorem isValid_append_iff (ha : isValid a = true) :
    isValid (a ++ b) = true ↔ isValid b = true := by
  rw [isValid, beq_iff_eq] at ha
  rw [isValid, isValid, run_append, ha, Option.bind_some]

/-- A text that has an ASCII byte is one before that byte and one behind it. -/
theorem isValid_append_cons_iff (hc : c < 0x80) :
    isValid (a ++ c :: b) = true ↔ isValid a = true ∧ isValid b = true := by
  simp only [isValid, beq_iff_eq, run_append]
  cases run .boundary a with
  | none => simp
  | some state =>
    -- The byte is read between two characters only, and the rest is read from there on.
    rw [Option.bind_some, run, State.step_of_lt hc]
    by_cases hstate : state = .boundary
    · simp [hstate]
    · simp [hstate]

/-- Behind an ASCII byte a text begins, or none. -/
theorem isValid_cons_iff (hc : c < 0x80) : isValid (c :: a) = true ↔ isValid a = true :=
  (isValid_append_cons_iff (a := []) hc).trans (and_iff_right rfl)

/-- ASCII bytes are a text. -/
theorem isValid_of_forall_lt (h : ∀ c ∈ a, c < 0x80) : isValid a = true := by
  induction a with
  | nil => rfl
  | cons c a ih =>
    rw [List.forall_mem_cons] at h
    exact (isValid_cons_iff h.1).mpr (ih h.2)

/-- ASCII bytes at the end make a text of a text, and of nothing else. -/
theorem isValid_append_iff_left (h : ∀ c ∈ b, c < 0x80) :
    isValid (a ++ b) = true ↔ isValid a = true := by
  cases b with
  | nil => rw [List.append_nil]
  | cons c b =>
    rw [List.forall_mem_cons] at h
    rw [isValid_append_cons_iff h.1, isValid_of_forall_lt h.2, and_iff_left rfl]

/-- A text without the ASCII bytes of one kind at its front is a text. -/
theorem isValid_dropWhile {p : UInt8 → Bool} (hp : ∀ c, p c = true → c < 0x80)
    (h : isValid text = true) : isValid (text.dropWhile p) = true := by
  rw [← List.takeWhile_append_dropWhile (p := p) (l := text)] at h
  exact (isValid_append_iff (isValid_of_forall_lt fun c hc => hp c (List.mem_takeWhile_imp hc))).mp h

end Cuts

section Letters

/-- A letter is read as it is in the other case. -/
theorem State.step_toLower (state : State) (c : UInt8) :
    state.step (Ascii.toLower c) = state.step c := by
  rw [Ascii.toLower]
  split
  next hletter =>
    simp only [Bool.and_eq_true, decide_eq_true_eq, UInt8.le_iff_toNat_le] at hletter
    have hupper : c < 0x80 := by
      rw [UInt8.lt_iff_toNat_lt]
      exact Nat.lt_of_le_of_lt hletter.2 (by decide)
    have hlower : c + 32 < 0x80 := by
      have hz : c.toNat ≤ 90 := hletter.2
      rw [UInt8.lt_iff_toNat_lt, UInt8.toNat_add]
      change (c.toNat + 32) % 256 < 128
      omega
    rw [step_of_lt hlower, step_of_lt hupper]
  next => rfl

theorem run_map_toLower (state : State) (bytes : Bytes) :
    run state (bytes.map Ascii.toLower) = run state bytes := by
  induction bytes generalizing state with
  | nil => rfl
  | cons c bytes ih =>
    rw [List.map_cons, run, run, State.step_toLower]
    cases state.step c with
    | none => rfl
    | some next => exact ih next

/-- Bytes are as good a text as the same ones in other letters. -/
theorem isValid_eq_of_equalsIgnoreCase (h : Ascii.equalsIgnoreCase a b = true) :
    isValid a = isValid b := by
  have hmap := beq_iff_eq.mp h
  rw [isValid, isValid, ← run_map_toLower, hmap, run_map_toLower]

end Letters

section Boundaries

theorem isBoundary_zero (text : Bytes) : IsBoundary text 0 := ⟨Nat.zero_le _, rfl⟩

variable (htext : isValid text = true)

include htext

theorem isBoundary_length : IsBoundary text text.length :=
  ⟨Nat.le_refl _, by rwa [List.take_length]⟩

/-- What follows the place is a text, too. -/
theorem IsBoundary.isValid_drop (h : IsBoundary text i) : isValid (text.drop i) = true := by
  rw [← isValid_append_iff h.isValid_take, List.take_append_drop]
  exact htext

/-- In a text the one byte at a place tells whether it is a boundary. -/
theorem isBoundary_iff : isBoundary text i = true ↔ IsBoundary text i := by
  rw [isBoundary]
  cases hbyte : text[i]? with
  | none =>
    -- The place is the end of the text, or lies behind it.
    rw [List.getElem?_eq_none_iff] at hbyte
    simp only [Bool.or_eq_true, beq_iff_eq]
    constructor
    · intro h
      obtain rfl : i = text.length := by omega
      exact isBoundary_length htext
    · exact fun h => Or.inr (Nat.le_antisymm h.le_length hbyte)
  | some c =>
    obtain ⟨hi, hc⟩ := List.getElem?_eq_some_iff.mp hbyte
    have hdrop : text.drop i = c :: text.drop (i + 1) := by rw [List.drop_eq_getElem_cons hi, hc]
    -- The text goes on with this byte, so the bytes before it are read up to some state.
    have hrun : run .boundary (text.take i ++ c :: text.drop (i + 1)) = some .boundary := by
      rw [← hdrop, List.take_append_drop]
      exact beq_iff_eq.mp htext
    rw [run_append] at hrun
    obtain ⟨state, hstate, hrest⟩ := Option.bind_eq_some_iff.mp hrun
    have hvalid : isValid (text.take i) = true ↔ state = .boundary := by
      rw [isValid, hstate, beq_iff_eq, Option.some.injEq]
    rw [run] at hrest
    split at hrest
    next next hstep =>
      simp only [← State.eq_boundary_iff_of_step hstep, ← hvalid, Bool.or_eq_true, beq_iff_eq]
      constructor
      · rintro (rfl | hvalid)
        · exact isBoundary_zero text
        · exact ⟨Nat.le_of_lt hi, hvalid⟩
      · exact fun h => Or.inr h.isValid_take
    next => cases hrest

end Boundaries

end Utf8

end MotionJpeg
