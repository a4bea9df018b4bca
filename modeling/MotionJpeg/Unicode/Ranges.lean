/-!
# Ranges of code points

A property of characters as a list of ranges. The ranges ascend, so a look-up ends at the first one
that begins beyond the character.

* `Ranges.covers_iff` says that such a look-up misses nothing.
-/

namespace MotionJpeg.Unicode

/-- Closed ranges of code points, ascending and apart. -/
abbrev Ranges := List (Nat × Nat)

/-- A code point lies in one of the ranges. -/
def Ranges.coversPoint (point : Nat) : Ranges → Bool
  | [] => false
  | (low, high) :: rest => low ≤ point && (point ≤ high || coversPoint point rest)

/-- The code point of a character lies in one of the ranges. -/
def Ranges.covers (ranges : Ranges) (c : Char) : Bool := ranges.coversPoint c.toNat

/-- Every range ends before the next one begins. -/
def Ranges.ascends : Ranges → Bool
  | [] => true
  | (low, high) :: rest => low ≤ high && rest.head?.all (fun next => high < next.1) && ascends rest

/-- Ranges that ascend begin one after the other. -/
theorem Ranges.pairwise_of_ascends {ranges : Ranges} (h : ranges.ascends = true) :
    ranges.Pairwise fun a b => a.1 ≤ b.1 := by
  induction ranges with
  | nil => exact List.Pairwise.nil
  | cons range rest ih =>
    rw [ascends, Bool.and_eq_true, Bool.and_eq_true, decide_eq_true_eq] at h
    obtain ⟨⟨hle, hnext⟩, hrest⟩ := h
    refine List.pairwise_cons.mpr ⟨?_, ih hrest⟩
    intro other hmem
    cases rest with
    | nil => simp at hmem
    | cons next rest =>
      have hlt : range.2 < next.1 := by simpa using hnext
      rcases List.mem_cons.mp hmem with rfl | hmem
      · omega
      · have hlater := (List.pairwise_cons.mp (ih hrest)).1 other hmem
        omega

/-- The search misses nothing in ranges that begin one after the other. -/
theorem Ranges.coversPoint_iff {ranges : Ranges} (h : ranges.Pairwise fun a b => a.1 ≤ b.1)
    (point : Nat) :
    ranges.coversPoint point = true ↔ ∃ range ∈ ranges, range.1 ≤ point ∧ point ≤ range.2 := by
  induction ranges with
  | nil => simp [coversPoint]
  | cons range rest ih =>
    obtain ⟨hlow, hrest⟩ := List.pairwise_cons.mp h
    rw [coversPoint, Bool.and_eq_true, Bool.or_eq_true, decide_eq_true_eq, decide_eq_true_eq,
      ih hrest]
    constructor
    · rintro ⟨hle, hhigh | ⟨other, hmem, hother⟩⟩
      · exact ⟨range, List.mem_cons_self, hle, hhigh⟩
      · exact ⟨other, List.mem_cons_of_mem _ hmem, hother⟩
    · rintro ⟨other, hmem, hother⟩
      rcases List.mem_cons.mp hmem with rfl | hmem
      · exact ⟨hother.1, Or.inl hother.2⟩
      · exact ⟨Nat.le_trans (hlow other hmem) hother.1, Or.inr ⟨other, hmem, hother⟩⟩

/-- In ranges that ascend, a character is covered when it lies between the ends of a range. -/
theorem Ranges.covers_iff {ranges : Ranges} (h : ranges.ascends = true) (c : Char) :
    ranges.covers c = true ↔ ∃ range ∈ ranges, range.1 ≤ c.toNat ∧ c.toNat ≤ range.2 :=
  coversPoint_iff (pairwise_of_ascends h) c.toNat

end MotionJpeg.Unicode
