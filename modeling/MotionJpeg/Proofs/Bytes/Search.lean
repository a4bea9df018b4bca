import Mathlib.Data.List.Basic
import MotionJpeg.Bytes.Basic

/-!
# Occurrences of a run of bytes

`Bytes.search?` is the place where a pattern occurs first. A text that arrives in pieces is
searched again and again, so what matters is how the answer depends on the bytes that follow.

* `search?_eq_some_iff`: the answer is an occurrence, and none is earlier.
* `search?_append_of_eq_some`: more bytes do not change an answer.
* `search?_of_append`: an occurrence that lies in the first piece is found there already.
* `after?_eq_some_iff`: what is found behind the front of a text is the rest of it.
-/

namespace MotionJpeg.Bytes

variable {pattern bytes rest : Bytes} {i : Nat}

/-- After the first `i` bytes comes `pattern`. -/
def OccursAt (pattern bytes : Bytes) (i : Nat) : Prop :=
  i ≤ bytes.length ∧ pattern <+: bytes.drop i

/-- In the rest of a byte string everything occurs one place earlier. -/
theorem occursAt_cons_succ {c : UInt8} :
    OccursAt pattern (c :: bytes) (i + 1) ↔ OccursAt pattern bytes i := by
  simp [OccursAt]

/-- An occurrence ends in the text. -/
theorem OccursAt.add_length_le (h : OccursAt pattern bytes i) :
    i + pattern.length ≤ bytes.length := by
  obtain ⟨hi, hpre⟩ := h
  have hlen := hpre.length_le
  rw [List.length_drop] at hlen
  omega

/-- What occurs in a text occurs in a longer one at the same place. -/
theorem OccursAt.append (h : OccursAt pattern bytes i) (rest : Bytes) :
    OccursAt pattern (bytes ++ rest) i := by
  obtain ⟨hi, hpre⟩ := h
  refine ⟨by rw [List.length_append]; omega, ?_⟩
  rw [List.drop_append_of_le_length hi]
  exact hpre.trans (List.prefix_append _ _)

/-- What occurs in a text and ends in its first piece occurs in that piece. -/
theorem OccursAt.of_append (h : OccursAt pattern (bytes ++ rest) i)
    (hend : i + pattern.length ≤ bytes.length) : OccursAt pattern bytes i := by
  obtain ⟨-, hpre⟩ := h
  have hi : i ≤ bytes.length := by omega
  refine ⟨hi, ?_⟩
  rw [List.drop_append_of_le_length hi] at hpre
  exact List.prefix_of_prefix_length_le hpre (List.prefix_append _ _)
    (by rw [List.length_drop]; omega)

/-- What occurs in two pieces together occurs in one of them if the second piece begins with a
byte that the pattern does not have. -/
theorem OccursAt.append_cases (h : OccursAt pattern (bytes ++ rest) i)
    (hrest : ∀ c ∈ rest.head?, c ∉ pattern) :
    OccursAt pattern bytes i ∨ bytes.length ≤ i ∧ OccursAt pattern rest (i - bytes.length) := by
  by_cases hleft : i + pattern.length ≤ bytes.length
  · -- The pattern ends in the first piece.
    exact Or.inl (h.of_append hleft)
  by_cases hright : bytes.length ≤ i
  · -- The pattern begins in the second piece.
    refine Or.inr ⟨hright, ?_⟩
    obtain ⟨hi, hpre⟩ := h
    rw [List.drop_append, List.drop_eq_nil_of_le hright, List.nil_append] at hpre
    rw [List.length_append] at hi
    exact ⟨by omega, hpre⟩
  · -- The pattern lies across the seam, so it would have the first byte of the rest.
    have hend := h.add_length_le
    rw [List.length_append] at hend
    cases rest with
    | nil => exact absurd hend (by simpa using hleft)
    | cons c rest =>
      have hplace : i + (bytes.length - i) = bytes.length := by omega
      have hbyte := h.2.getElem (by omega : bytes.length - i < pattern.length)
      simp only [List.getElem_drop, hplace, List.getElem_append_right (Nat.le_refl _),
        Nat.sub_self, List.getElem_cons_zero] at hbyte
      exact absurd (hbyte ▸ List.getElem_mem _) (hrest c rfl)

/-- A pattern stands somewhere in a text exactly if it occurs at some place. -/
theorem isInfix_iff_exists_occursAt : pattern <:+: bytes ↔ ∃ i, OccursAt pattern bytes i := by
  constructor
  · rintro ⟨before, after, rfl⟩
    refine ⟨before.length, by simp, ?_⟩
    rw [List.append_assoc, List.drop_left]
    exact List.prefix_append _ _
  · rintro ⟨i, -, hpre⟩
    exact hpre.isInfix.trans (List.drop_suffix i bytes).isInfix

/-- A search that has passed some bytes counts them. -/
private theorem go_eq_map (passed : Nat) :
    search?.go pattern passed bytes = (search? pattern bytes).map (passed + ·) := by
  -- The search counts up from wherever it starts, so the statement is for every start.
  suffices h : ∀ start, search?.go pattern (passed + start) bytes =
      (search?.go pattern start bytes).map (passed + ·) from h 0
  induction bytes with
  | nil => intro start; by_cases h : pattern.isEmpty <;> simp [search?.go, h]
  | cons c bytes ih =>
    intro start
    by_cases h : pattern.isPrefixOf (c :: bytes)
    · simp [search?.go, h]
    · simp only [search?.go, h, Bool.false_eq_true, if_false, Nat.add_assoc, ih]

/-- A search looks at the front first and then goes on behind the first byte. -/
theorem search?_cons (c : UInt8) : search? pattern (c :: bytes) =
    if pattern <+: c :: bytes then some 0 else (search? pattern bytes).map (1 + ·) := by
  rw [search?, search?.go, go_eq_map]
  simp only [List.isPrefixOf_iff_prefix]

/-- A search gives the place of an occurrence with no other one before it. -/
theorem search?_eq_some_iff : search? pattern bytes = some i ↔
    OccursAt pattern bytes i ∧ ∀ j < i, ¬ OccursAt pattern bytes j := by
  -- Induction on the text. If the pattern is not at its front, every occurrence is one of the
  -- rest, moved by one place.
  induction bytes generalizing i with
  | nil =>
    rw [search?, search?.go]
    cases pattern <;> cases i <;> simp [OccursAt]
  | cons c bytes ih =>
    rw [search?_cons]
    by_cases h : pattern <+: c :: bytes
    · have hzero : OccursAt pattern (c :: bytes) 0 := ⟨Nat.zero_le _, h⟩
      rw [if_pos h, Option.some.injEq]
      constructor
      · rintro rfl
        exact ⟨hzero, fun j hj => absurd hj (Nat.not_lt_zero j)⟩
      · rintro ⟨-, hfirst⟩
        by_contra hne
        exact hfirst 0 (Nat.pos_of_ne_zero (Ne.symm hne)) hzero
    · have hzero : ¬ OccursAt pattern (c :: bytes) 0 := fun hat => h hat.2
      rw [if_neg h, Option.map_eq_some_iff]
      constructor
      · rintro ⟨k, hk, rfl⟩
        obtain ⟨hat, hfirst⟩ := ih.mp hk
        rw [Nat.add_comm]
        refine ⟨occursAt_cons_succ.mpr hat, fun j hj => ?_⟩
        cases j with
        | zero => exact hzero
        | succ j => exact fun hcons => hfirst j (by omega) (occursAt_cons_succ.mp hcons)
      · rintro ⟨hat, hfirst⟩
        cases i with
        | zero => exact absurd hat hzero
        | succ k =>
          refine ⟨k, ih.mpr ⟨occursAt_cons_succ.mp hat, fun j hj hcons => ?_⟩, Nat.add_comm 1 k⟩
          exact hfirst (j + 1) (by omega) (occursAt_cons_succ.mpr hcons)

/-- A search fails exactly if there is no occurrence. -/
theorem search?_eq_none_iff : search? pattern bytes = none ↔ ∀ i, ¬ OccursAt pattern bytes i := by
  constructor
  · intro h i
    -- An occurrence with none before it is one that the search finds.
    induction i using Nat.strongRecOn with
    | ind i ih =>
      intro hat
      have hsome := search?_eq_some_iff.mpr ⟨hat, ih⟩
      rw [h] at hsome
      cases hsome
  · intro h
    cases hsearch : search? pattern bytes with
    | none => rfl
    | some i => exact absurd (search?_eq_some_iff.mp hsearch).1 (h i)

/-- What a search has found it still finds when more bytes follow. -/
theorem search?_append_of_eq_some (h : search? pattern bytes = some i) (rest : Bytes) :
    search? pattern (bytes ++ rest) = some i := by
  obtain ⟨hat, hfirst⟩ := search?_eq_some_iff.mp h
  have hend := hat.add_length_le
  refine search?_eq_some_iff.mpr ⟨hat.append rest, fun j hj hlong => ?_⟩
  exact hfirst j hj (hlong.of_append (by omega))

/-- An occurrence that ends in the first piece of a text is found in that piece alone. -/
theorem search?_of_append (h : search? pattern (bytes ++ rest) = some i)
    (hend : i + pattern.length ≤ bytes.length) : search? pattern bytes = some i := by
  obtain ⟨hat, hfirst⟩ := search?_eq_some_iff.mp h
  exact search?_eq_some_iff.mpr
    ⟨hat.of_append hend, fun j hj hshort => hfirst j hj (hshort.append rest)⟩

/-- What follows the front of a text makes the text, together with that front. -/
theorem after?_eq_some_iff {start : Bytes} : start.after? bytes = some rest ↔
    bytes = start ++ rest := by
  simp only [after?, List.isPrefixOf_iff_prefix]
  constructor
  · intro h
    obtain ⟨hfront, hrest⟩ := Option.ite_none_right_eq_some.mp h
    rw [← Option.some.inj hrest]
    exact (List.prefix_iff_eq_append.mp hfront).symm
  · rintro rfl
    rw [if_pos (List.prefix_append start rest), List.drop_left]

end MotionJpeg.Bytes
