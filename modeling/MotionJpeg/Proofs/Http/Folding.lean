import Mathlib.Logic.Relation
import MotionJpeg.Proofs.Bytes.Characters
import MotionJpeg.Proofs.Http.HeaderValue

/-!
# Folded heads

A long line of a head may be folded: a line end and some blanks are put into it. That undoes
itself when the lines of the head are put together again, wherever in a line the fold is, so a
folded head is read like the head that it was made of.

* `Http.Folds`: a head is folded at one place.
* `Http.mergeContinuations_fold` and `Http.Folds.logicalLines_eq`: a fold leaves no trace in the
  lines.
* `Http.Request.parse_eq_of_folds`: a head that was folded any number of times reads as before.
-/

namespace MotionJpeg.Http

open Bytes (IsUncut joinLines)

/-- A head is folded at one place. This lies in a line, between two characters, and not before a
blank, as that would be taken for one of the fold. It may be the end of a line, and a line that is
folded may be a continuation already. -/
inductive Folds : Bytes → Bytes → Prop where
  | fold {before blanks after : Bytes}
      (hstart : ¬ Bytes.crlf <:+ before)
      (hseam : ¬ (before.getLast? = some 13 ∧ after.head? = some 10))
      (hcharacter : Utf8.isValid before = true)
      (hafter : ∀ c ∈ after.head?, Ascii.isSpaceOrTab c = false)
      (hne : blanks ≠ [])
      (hblanks : ∀ c ∈ blanks, Ascii.isSpaceOrTab c = true) :
      Folds (before ++ after) (before ++ Bytes.crlf ++ blanks ++ after)

/-- Blanks are skipped, and then what begins with none of them stays. -/
theorem dropWhile_blanks_append {blanks rest : Bytes}
    (hblanks : ∀ c ∈ blanks, Ascii.isSpaceOrTab c = true)
    (hrest : ∀ c ∈ rest.head?, Ascii.isSpaceOrTab c = false) :
    (blanks ++ rest).dropWhile Ascii.isSpaceOrTab = rest := by
  rw [List.dropWhile_append_of_pos hblanks, Ascii.dropWhile_eq_self hrest]

/-- A line without its first blanks, when it goes on with something that begins with no blank. -/
theorem dropWhile_line_append (line : Bytes) {rest : Bytes}
    (hrest : ∀ c ∈ rest.head?, Ascii.isSpaceOrTab c = false) :
    (line ++ rest).dropWhile Ascii.isSpaceOrTab =
      line.dropWhile Ascii.isSpaceOrTab ++ rest := by
  rw [List.dropWhile_append]
  split
  next hnil =>
    rw [List.isEmpty_iff.mp hnil, List.nil_append, Ascii.dropWhile_eq_self hrest]
  next => rfl

/-- Only the first byte tells whether a line continues another one. -/
theorem isContinuation_append {line : Bytes} (hne : line ≠ []) (rest : Bytes) :
    isContinuation (line ++ rest) = isContinuation line := by
  rw [isContinuation, isContinuation, List.head?_append_of_ne_nil _ hne]

/-- A line that begins with blanks continues the one before it. -/
theorem isContinuation_blanks_append {blanks : Bytes} (hne : blanks ≠ [])
    (hblanks : ∀ c ∈ blanks, Ascii.isSpaceOrTab c = true) (rest : Bytes) :
    isContinuation (blanks ++ rest) = true := by
  rw [isContinuation_append hne]
  obtain ⟨c, blanks, rfl⟩ := List.exists_cons_of_ne_nil hne
  exact hblanks c List.mem_cons_self

section Fold

variable {blanks next : Bytes} (hne : blanks ≠ [])
  (hblanks : ∀ c ∈ blanks, Ascii.isSpaceOrTab c = true)
  (hnext : ∀ c ∈ next.head?, Ascii.isSpaceOrTab c = false) (rest : List Bytes)

include hne hblanks hnext

/-- The second part of a folded line continues the first one, without the blanks of the fold. -/
theorem mergeContinuations_blanks : mergeContinuations ((blanks ++ next) :: rest) =
    (next ++ (mergeContinuations rest).1, (mergeContinuations rest).2) := by
  rw [mergeContinuations, isContinuation_blanks_append hne hblanks,
    dropWhile_blanks_append hblanks hnext]
  rfl

/-- Lines that continue others are put together to the same, whether one of them is folded or not.
That line may be a continuation itself, and the fold may come right after its blanks. -/
theorem mergeContinuations_fold (lines : List Bytes) {last : Bytes} (hlast : last ≠ []) :
    mergeContinuations (lines ++ last :: (blanks ++ next) :: rest) =
      mergeContinuations (lines ++ (last ++ next) :: rest) := by
  induction lines with
  | nil =>
    rw [List.nil_append, List.nil_append, mergeContinuations,
      mergeContinuations_blanks hne hblanks hnext, mergeContinuations,
      isContinuation_append hlast, dropWhile_line_append last hnext]
    simp only [List.append_assoc]
  | cons line lines ih => rw [List.cons_append, List.cons_append, mergeContinuations, ih,
      mergeContinuations]

end Fold

theorem logicalLines_of_crlfLines {head line : Bytes} {lines : List Bytes}
    (h : head.crlfLines = line :: lines) : logicalLines head =
      (line ++ (mergeContinuations lines).1) :: (mergeContinuations lines).2 := by
  rw [logicalLines, h]

/-- Blanks are put before the first line of a text, and no line end comes with them. -/
theorem crlfLines_blanks_append {blanks text next : Bytes} {rest : List Bytes}
    (hblanks : ∀ c ∈ blanks, Ascii.isSpaceOrTab c = true) (h : text.crlfLines = next :: rest) :
    (blanks ++ text).crlfLines = (blanks ++ next) :: rest := by
  have hline := isLine_of_isSpaceOrTab hblanks
  have hself : blanks.crlfLines = [] ++ [blanks] :=
    Bytes.crlfLines_eq_cons_iff.mpr
      ⟨(Bytes.joinLines_nil blanks).symm, List.forall_mem_singleton.mpr hline.isUncut⟩
  exact Bytes.crlfLines_append hself h fun hseam => hline.1 (List.mem_of_getLast? hseam.1)

/-- Blanks before a text are whole characters, so the text stays what it is. -/
theorem isValid_blanks_append {blanks rest : Bytes}
    (hblanks : ∀ c ∈ blanks, Ascii.isSpaceOrTab c = true) (hrest : Utf8.isValid rest = true) :
    Utf8.isValid (blanks ++ rest) = true := by
  refine Utf8.isValid_append (Utf8.isValid_of_forall_lt fun c hc => ?_) hrest
  exact Ascii.lt_of_isSpaceOrTab (hblanks c hc)

namespace Folds

variable {head folded : Bytes}

/-- A folded head is as good a text as it was before. -/
theorem isValid (h : Folds head folded) (hvalid : Utf8.isValid head = true) :
    Utf8.isValid folded = true := by
  obtain @⟨before, blanks, after, hstart, hseam, hcharacter, hafter, hne, hblanks⟩ := h
  have hrest : Utf8.isValid after = true := (Utf8.isValid_append_iff hcharacter).mp hvalid
  rw [List.append_assoc, List.append_assoc, Utf8.isValid_append_iff hcharacter]
  exact Utf8.isValid_append (by decide) (isValid_blanks_append hblanks hrest)

/-- A fold puts no blank line into a head. -/
theorem headEnd?_eq_none (h : Folds head folded) (hhead : headEnd? head = none) :
    headEnd? folded = none := by
  obtain @⟨before, blanks, after, hstart, hseam, hcharacter, hafter, hne, hblanks⟩ := h
  have hnone : ¬ blankLine <:+: before ++ after := by
    rw [Bytes.isInfix_iff_exists_occursAt, not_exists]
    exact Bytes.search?_eq_none_iff.mp hhead
  have hclear : ∀ c ∈ (blanks ++ after).head?, c ∉ blankLine := by
    rw [List.head?_append_of_ne_nil _ hne]
    intro c hc hmem
    obtain ⟨hcr, hlf⟩ := isLine_of_isSpaceOrTab hblanks
    have hblank := List.mem_of_mem_head? hc
    simp only [blankLine, List.mem_cons, List.not_mem_nil, or_false] at hmem
    rcases hmem with rfl | rfl | rfl | rfl
    all_goals first | exact hcr hblank | exact hlf hblank
  refine Bytes.search?_eq_none_iff.mpr fun i hat => ?_
  rw [List.append_assoc] at hat
  -- The first blank of the fold is no byte of a blank line, so this lies before it or after it.
  rcases hat.append_cases hclear with hfront | ⟨-, hback⟩
  · have hwithin : blankLine <:+: before ++ [13] ++ [10] := by
      simpa [Bytes.crlf] using Bytes.isInfix_iff_exists_occursAt.mpr ⟨i, hfront⟩
    rcases List.infix_concat_iff.mp hwithin with hends | hwithin
    · -- The first half of the blank line would end right before the fold.
      rw [List.append_assoc] at hends
      change Bytes.crlf ++ Bytes.crlf <:+ before ++ Bytes.crlf at hends
      exact hstart (List.suffix_append_self_iff.mp hends)
    rcases List.infix_concat_iff.mp hwithin with ⟨other, hends⟩ | hwithin
    · have hlast := congrArg List.getLast? hends
      simp [blankLine] at hlast
    · exact hnone (hwithin.trans List.infix_append_left)
  · have hafter' : Bytes.search? blankLine after = none := by
      refine Bytes.search?_eq_none_iff.mpr fun j hat => ?_
      have hwithin := Bytes.isInfix_iff_exists_occursAt.mpr ⟨j, hat⟩
      exact hnone (hwithin.trans List.infix_append_right)
    have hpass : Bytes.search? blankLine (blanks ++ after) =
        (Bytes.search? blankLine after).map (blanks.length + ·) :=
      Bytes.search?_append_of_not_mem (isLine_of_isSpaceOrTab hblanks).1 after
    rw [hafter', Option.map_none] at hpass
    exact Bytes.search?_eq_none_iff.mp hpass _ hback

/-- A fold leaves no trace in the lines. -/
theorem logicalLines_eq (h : Folds head folded) : logicalLines folded = logicalLines head := by
  obtain @⟨before, blanks, after, hstart, hseam, hcharacter, hafter, hne, hblanks⟩ := h
  obtain ⟨lines, last, hlines⟩ := Bytes.exists_crlfLines_eq_concat before
  obtain ⟨next, rest, rfl, hrest⟩ := Bytes.exists_eq_joinLines after
  have hnext : ∀ c ∈ next.head?, Ascii.isSpaceOrTab c = false := fun c hc =>
    hafter c (by rw [joinLines, List.head?_append, Option.mem_def.mp hc, Option.some_or]; rfl)
  have hrest' := Bytes.crlfLines_joinLines_of_isUncut hrest
  have hhead := Bytes.crlfLines_append hlines hrest' hseam
  have hfolded : (before ++ Bytes.crlf ++ blanks ++ joinLines next rest).crlfLines =
      lines ++ last :: (blanks ++ next) :: rest := by
    rw [List.append_assoc, Bytes.crlfLines_append_crlf, hlines,
      crlfLines_blanks_append hblanks hrest', List.append_assoc, List.singleton_append]
  cases lines with
  | nil =>
    -- The fold is in the first line, which continues nothing, whatever it begins with.
    rw [logicalLines_of_crlfLines hfolded, logicalLines_of_crlfLines hhead,
      mergeContinuations_blanks hne hblanks hnext, List.append_assoc]
  | cons line lines =>
    have hlast : last ≠ [] := by
      rintro rfl
      obtain ⟨rfl, -⟩ := Bytes.crlfLines_eq_cons_iff.mp hlines
      exact hstart ⟨joinLines line lines, by simp [joinLines]⟩
    rw [List.cons_append] at hfolded hhead
    rw [logicalLines_of_crlfLines hfolded, logicalLines_of_crlfLines hhead,
      mergeContinuations_fold hne hblanks hnext rest lines hlast]

/-- A head that is folded at one place is read like the head itself. -/
theorem parse_eq (h : Folds head folded) (hvalid : Utf8.isValid head = true)
    (hhead : headEnd? head = none) : Request.parse folded = Request.parse head := by
  have hof {data : Bytes} (hnone : headEnd? data = none) : headOf data = data := by
    rw [headOf, hnone]
  rw [Request.parse, Request.parse, hof hhead, hof (h.headEnd?_eq_none hhead)]
  simp only [hvalid, h.isValid hvalid, if_true, h.logicalLines_eq]

end Folds

/-- However often a head is folded, in whatever lines and at whatever places of them, the same
request is read of it. -/
theorem Request.parse_eq_of_folds {head folded : Bytes} (hvalid : Utf8.isValid head = true)
    (hhead : headEnd? head = none) (h : Relation.ReflTransGen Folds head folded) :
    Request.parse folded = Request.parse head := by
  -- What is folded once more has to be a head without a blank line, as it was in the beginning.
  suffices hall : Utf8.isValid folded = true ∧ headEnd? folded = none ∧
      Request.parse folded = Request.parse head from hall.2.2
  induction h with
  | refl => exact ⟨hvalid, hhead, rfl⟩
  | tail _ hfold ih =>
    obtain ⟨hvalid, hnone, hparse⟩ := ih
    exact ⟨hfold.isValid hvalid, hfold.headEnd?_eq_none hnone,
      (hfold.parse_eq hvalid hnone).trans hparse⟩

section Narrow

/-- The beginning of a head, up to the middle of the path. -/
def pathStart : Bytes := .ofString "GET /ét"

/-- The rest of that head. -/
def pathEnd : Bytes := .ofString "é HTTP/1.1\x0d\nHost: cam.local"

/-- The head after a fold in the path and another one right behind the blank of that fold. -/
def narrowHead : Bytes := pathStart ++ Bytes.crlf ++ [32] ++ Bytes.crlf ++ [9, 32] ++ pathEnd

/-- The path is read in one piece, although it stands in three lines. -/
theorem Request.parse_eq_of_folds_narrow :
    (Utf8.isValid (pathStart ++ pathEnd) = true ∧ headEnd? (pathStart ++ pathEnd) = none ∧
      Relation.ReflTransGen Folds (pathStart ++ pathEnd) narrowHead) ∧
    narrowHead = .ofString "GET /ét\x0d\n \x0d\n\t é HTTP/1.1\x0d\nHost: cam.local" ∧
    (Request.parse narrowHead).path = .ofString "/été" ∧
    Request.parse narrowHead = Request.parse (pathStart ++ pathEnd) := by
  have hvalid : Utf8.isValid (pathStart ++ pathEnd) = true := by decide +kernel
  have hnone : headEnd? (pathStart ++ pathEnd) = none := by decide +kernel
  have hfirst : Folds (pathStart ++ pathEnd) (pathStart ++ Bytes.crlf ++ [32] ++ pathEnd) :=
    .fold (by decide +kernel) (by decide +kernel) (by decide +kernel) (by decide +kernel)
      (by decide) (by decide +kernel)
  have hsecond : Folds (pathStart ++ Bytes.crlf ++ [32] ++ pathEnd) narrowHead :=
    .fold (by decide +kernel) (by decide +kernel) (by decide +kernel) (by decide +kernel)
      (by decide) (by decide +kernel)
  have hfolds := (Relation.ReflTransGen.single hfirst).tail hsecond
  exact ⟨⟨hvalid, hnone, hfolds⟩, by decide +kernel, by decide +kernel,
    parse_eq_of_folds hvalid hnone hfolds⟩

end Narrow

end MotionJpeg.Http
