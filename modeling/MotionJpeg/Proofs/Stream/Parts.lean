import Mathlib.Data.List.Infix
import MotionJpeg.Proofs.Bytes.Search
import MotionJpeg.Proofs.Stream.Segment

/-!
# Cutting the body of a stream

A viewer cuts the body of a stream at the boundaries. It finds the parts that were sent if no
image holds a boundary, and if all that was sent of other frames stands in front of a part.

* `Multipart.parts` is what a viewer gets.
* `Multipart.occursAt_part_iff`: a clean part has its boundary at the end and nowhere else.
* `Multipart.parts_append_part`: the first part ends where the first whole frame does.
* `Multipart.exists_torn_of_mem_parts`: what a part of a row of segments consists of.
-/

namespace MotionJpeg.Multipart

/-- The pieces of a body between the boundaries that close its parts. The last one is not
finished. -/
def parts (body : Bytes) : List Bytes :=
  match _ : Bytes.search? partFooter body with
  | none => [body]
  | some i => body.take i :: parts (body.drop (i + partFooter.length))
termination_by body.length
decreasing_by
  rename_i h
  have hend := (Bytes.search?_eq_some_iff.mp h).1.add_length_le
  have hpos : 0 < partFooter.length := by decide
  rw [List.length_drop]
  omega

/-- There is no boundary in what a part has before its own. -/
def IsClean (payload : Bytes) : Prop := ¬ partFooter <:+: partHeader ++ payload ++ Bytes.crlf

instance (payload : Bytes) : Decidable (IsClean payload) :=
  inferInstanceAs (Decidable (¬ _))

/-- No cut leaves nothing. -/
theorem parts_ne_nil (body : Bytes) : parts body ≠ [] := by
  rw [parts]
  split <;> exact List.cons_ne_nil _ _

/-- A body without a boundary is one unfinished part. -/
theorem parts_eq_singleton {body : Bytes} (h : Bytes.search? partFooter body = none) :
    parts body = [body] := by
  rw [parts]
  split
  · rfl
  · simp_all

/-- The first boundary finishes the first part. -/
theorem parts_append {before rest : Bytes}
    (h : Bytes.search? partFooter (before ++ (partFooter ++ rest)) = some before.length) :
    parts (before ++ (partFooter ++ rest)) = before :: parts rest := by
  rw [parts]
  split
  · simp_all
  · rename_i i hi
    rw [h, Option.some.injEq] at hi
    subst hi
    rw [List.take_left, ← List.drop_drop, List.drop_left, List.drop_left]

/-- A boundary overlaps with another one in a line end at most. -/
theorem not_drop_partFooter_prefix : ∀ d < partFooter.length - Bytes.crlf.length, 0 < d →
    ¬ partFooter.drop d <+: partFooter := by
  decide +kernel

/-- A part does not begin like anything in a boundary. -/
theorem notMem_partFooter_of_mem_head? : ∀ c ∈ partHeader.head?, c ∉ partFooter := by
  decide +kernel

variable {payload : Bytes} {i : Nat}

/-- A clean part has its boundary at the end and nowhere else. -/
theorem occursAt_part_iff (hclean : IsClean payload) :
    Bytes.OccursAt partFooter (part payload) i ↔ i = (partHeader ++ payload).length := by
  constructor
  · intro h
    have hend := h.add_length_le
    rw [part, List.length_append] at hend
    by_contra hne
    -- A boundary elsewhere ends before the last line of the part, or in it.
    by_cases hinside : i + partFooter.length ≤ (partHeader ++ payload ++ Bytes.crlf).length
    · have hsplit : part payload = partHeader ++ payload ++ Bytes.crlf ++ opening := by
        rw [part, partFooter, List.append_assoc (partHeader ++ payload)]
      rw [hsplit] at h
      exact hclean (Bytes.isInfix_iff_exists_occursAt.mpr ⟨i, h.of_append hinside⟩)
    · -- It overlaps with the boundary at the end, which a boundary does in a line end at most.
      have hlength : (partHeader ++ payload ++ Bytes.crlf).length =
          (partHeader ++ payload).length + Bytes.crlf.length := List.length_append
      rw [hlength] at hinside
      refine not_drop_partFooter_prefix ((partHeader ++ payload).length - i) (by omega)
        (by omega) ?_
      have hpre := h.2.drop ((partHeader ++ payload).length - i)
      have hplace : i + ((partHeader ++ payload).length - i) = (partHeader ++ payload).length := by
        omega
      rwa [List.drop_drop, hplace, part, List.drop_left] at hpre
  · rintro rfl
    refine ⟨by simp [part], ?_⟩
    rw [part, List.drop_left]

/-- Nothing shorter than a clean part has a boundary. -/
theorem not_occursAt_of_prefix (hclean : IsClean payload) {sent : Bytes}
    (hbegins : sent <+: part payload) (hne : sent ≠ part payload) :
    ¬ Bytes.OccursAt partFooter sent i := by
  intro h
  obtain ⟨rest, hrest⟩ := hbegins
  have hplace := (occursAt_part_iff hclean).mp (hrest ▸ h.append rest)
  have hend := h.add_length_le
  have hlength : (part payload).length = (partHeader ++ payload).length + partFooter.length :=
    List.length_append
  -- The boundary is the end of the whole part, so nothing of that is missing.
  refine hne (List.IsPrefix.eq_of_length_le ⟨rest, hrest⟩ ?_)
  omega

/-- A row of parts ends with its boundary, and this is the first one if all before it are torn. -/
theorem parts_append_part {torn : Bytes} (hclean : IsClean payload)
    (htorn : ∀ j, ¬ Bytes.OccursAt partFooter torn j) (rest : Bytes) :
    parts (torn ++ (part payload ++ rest)) = (torn ++ (partHeader ++ payload)) :: parts rest := by
  have hsplit : torn ++ (part payload ++ rest) =
      torn ++ (partHeader ++ payload) ++ (partFooter ++ rest) := by
    simp [part]
  rw [hsplit]
  refine parts_append (Bytes.search?_eq_some_iff.mpr ⟨⟨by simp, ?_⟩, fun j hj h => ?_⟩)
  · rw [List.drop_left]
    exact List.prefix_append _ _
  · rw [← hsplit, ← List.append_assoc] at h
    have hlength : (torn ++ part payload).length =
        (torn ++ (partHeader ++ payload)).length + partFooter.length := by
      simp only [part, List.length_append]
      omega
    have hinside : Bytes.OccursAt partFooter (torn ++ part payload) j := h.of_append (by omega)
    have hhead : ∀ c ∈ (part payload).head?, c ∉ partFooter := notMem_partFooter_of_mem_head?
    -- An earlier boundary would lie in what is torn or in the part, but not across their seam.
    rcases hinside.append_cases hhead with hat | ⟨hle, hat⟩
    · exact htorn j hat
    · have hplace := (occursAt_part_iff hclean).mp hat
      rw [List.length_append] at hj
      omega

section Segments

variable {payloads : List Bytes} {segments : List Segment}

/-- What was sent of a frame does not begin like anything in a boundary. -/
theorem notMem_partFooter_of_mem_head?_flatMap
    (hbegins : ∀ segment ∈ segments, segment.sent <+: wholePart payloads segment.sequence) :
    ∀ c ∈ (segments.flatMap Segment.sent).head?, c ∉ partFooter := by
  intro c hc
  rw [List.head?_flatMap, Option.mem_def] at hc
  obtain ⟨segment, hsegment, hsent⟩ := List.exists_of_findSome?_eq_some hc
  have hfirst : [c] <+: wholePart payloads segment.sequence :=
    (List.singleton_prefix_iff_head?_eq_some.mpr hsent).trans (hbegins segment hsegment)
  rw [List.singleton_prefix_iff_head?_eq_some, wholePart] at hfirst
  cases hpayload : payloads[segment.sequence]? with
  | none => simp [hpayload] at hfirst
  | some payload =>
    rw [hpayload, Option.map_some, Option.getD_some] at hfirst
    exact notMem_partFooter_of_mem_head? c hfirst

variable (hclean : ∀ payload ∈ payloads, IsClean payload)

include hclean

/-- What was sent of a frame has no boundary before the frame is complete. -/
theorem not_occursAt_sent {segment : Segment}
    (hbegins : segment.sent <+: wholePart payloads segment.sequence)
    (hincomplete : ¬ segment.IsComplete payloads) :
    ¬ Bytes.OccursAt partFooter segment.sent i := by
  rw [Segment.IsComplete] at hincomplete
  rw [wholePart] at hbegins
  cases hpayload : payloads[segment.sequence]? with
  | none =>
    rw [hpayload, Option.map_none, Option.getD_none, List.prefix_nil] at hbegins
    rw [hbegins]
    intro h
    exact absurd h.add_length_le (by simp [partFooter, Bytes.crlf])
  | some payload =>
    rw [hpayload, Option.map_some, Option.getD_some] at hbegins
    rw [hpayload, Option.map_some, Option.some.injEq] at hincomplete
    exact not_occursAt_of_prefix (hclean payload (List.mem_of_getElem? hpayload)) hbegins
      (Ne.symm hincomplete)

/-- There is no boundary in a row of segments none of which is complete. -/
theorem not_occursAt_flatMap
    (hbegins : ∀ segment ∈ segments, segment.sent <+: wholePart payloads segment.sequence)
    (htorn : ∀ segment ∈ segments, ¬ segment.IsComplete payloads) :
    ¬ Bytes.OccursAt partFooter (segments.flatMap Segment.sent) i := by
  induction segments generalizing i with
  | nil =>
    intro h
    exact absurd h.add_length_le (by simp [partFooter, Bytes.crlf])
  | cons segment segments ih =>
    rw [List.forall_mem_cons] at hbegins htorn
    intro h
    rw [List.flatMap_cons] at h
    rcases h.append_cases (notMem_partFooter_of_mem_head?_flatMap hbegins.2) with hat | ⟨-, hat⟩
    · exact not_occursAt_sent hclean hbegins.1 htorn.1 hat
    · exact ih hbegins.2 htorn.2 hat

/-- Every finished part of a row of segments ends with a whole frame, and what stands in front of
that was sent of frames that the stream has left since the part before. -/
theorem exists_torn_of_mem_parts (torn : List Segment)
    (hbegins : ∀ segment ∈ torn ++ segments,
      segment.sent <+: wholePart payloads segment.sequence)
    (htorn : ∀ segment ∈ torn, ¬ segment.IsComplete payloads) {piece : Bytes}
    (hpiece : piece ∈ (parts ((torn ++ segments).flatMap Segment.sent)).dropLast) :
    ∃ broken whole payload, broken ++ [whole] <:+: torn ++ segments ∧ payload ∈ payloads ∧
      (∀ segment ∈ broken, ¬ segment.IsComplete payloads) ∧
      piece = broken.flatMap Segment.sent ++ (partHeader ++ payload) := by
  -- Induction on the row, with the torn segments since the last whole one put aside.
  induction segments generalizing torn with
  | nil =>
    rw [List.append_nil] at hpiece hbegins
    rw [parts_eq_singleton] at hpiece
    · simp at hpiece
    · exact Bytes.search?_eq_none_iff.mpr fun i => not_occursAt_flatMap hclean hbegins htorn
  | cons segment segments ih =>
    by_cases hwhole : segment.IsComplete payloads
    · -- A whole frame finishes the part, and the next part begins behind it.
      obtain ⟨payload, hpayload, hsent⟩ := Option.map_eq_some_iff.mp hwhole
      have hmem := List.mem_of_getElem? hpayload
      have hfree (i : Nat) : ¬ Bytes.OccursAt partFooter (torn.flatMap Segment.sent) i :=
        not_occursAt_flatMap hclean
          (fun old hold => hbegins old (List.mem_append_left _ hold)) htorn
      rw [List.flatMap_append, List.flatMap_cons, ← hsent,
        parts_append_part (hclean payload hmem) hfree,
        List.dropLast_cons_of_ne_nil (parts_ne_nil _), List.mem_cons] at hpiece
      rcases hpiece with rfl | hlater
      · refine ⟨torn, segment, payload, ⟨[], segments, by simp⟩, hmem, htorn, rfl⟩
      · obtain ⟨broken, whole, payload', hrow, hrest⟩ :=
          ih [] (fun old hold => hbegins old (by simp_all)) (by simp) hlater
        refine ⟨broken, whole, payload', ?_, hrest⟩
        exact hrow.trans ((List.suffix_cons _ _).trans (List.suffix_append _ _)).isInfix
    · -- The segment is torn as well.
      have hassoc : torn ++ segment :: segments = torn ++ [segment] ++ segments := by simp
      rw [hassoc] at hbegins hpiece ⊢
      refine ih (torn ++ [segment]) hbegins (fun old hold => ?_) hpiece
      rcases List.mem_append.mp hold with hold | hnew
      · exact htorn old hold
      · exact List.mem_singleton.mp hnew ▸ hwhole

end Segments

end MotionJpeg.Multipart
