import MotionJpeg.Http.Request
import MotionJpeg.Proofs.Bytes.Search
import MotionJpeg.Proofs.Bytes.Text

/-!
# Heads made of lines

A head is written as a first line and the lines of its headers, with a line end between any two of
them. It is read back as these lines, whatever follows the blank line.

* `Bytes.joinLines` writes lines, and `Bytes.crlfLines_joinLines` reads them.
* `Bytes.crlfLines_eq_cons_iff` says what the lines of any text are.
* `Http.IsHead` says which lines make a head.
* `Http.IsHead.headEnd?_eq` and `Http.IsHead.parse_eq`: where such a head ends, and what is read
  of it.
-/

namespace MotionJpeg

namespace Bytes

/-- No byte of a line end is among these. -/
def IsLine (line : Bytes) : Prop := 13 ∉ line ∧ 10 ∉ line

instance : DecidablePred IsLine := fun _ => inferInstanceAs (Decidable (_ ∧ _))

@[simp]
theorem isLine_cons {c : UInt8} {line : Bytes} :
    IsLine (c :: line) ↔ (c ≠ 13 ∧ c ≠ 10) ∧ IsLine line := by
  simp only [IsLine, List.mem_cons, not_or, ne_comm]
  tauto

@[simp]
theorem isLine_append {a b : Bytes} : IsLine (a ++ b) ↔ IsLine a ∧ IsLine b := by
  simp only [IsLine, List.mem_append, not_or]
  tauto

/-- Lines with a line end between any two of them. -/
def joinLines (line : Bytes) (lines : List Bytes) : Bytes := line ++ lines.flatMap (crlf ++ ·)

theorem joinLines_nil (line : Bytes) : joinLines line [] = line := List.append_nil line

theorem joinLines_cons (line next : Bytes) (lines : List Bytes) :
    joinLines line (next :: lines) = line ++ 13 :: 10 :: joinLines next lines := rfl

/-- There is no line end in these bytes, so they are not cut. -/
def IsUncut (bytes : Bytes) : Prop := ¬ crlf <:+: bytes

/-- A line holds no line end. -/
theorem IsLine.isUncut {line : Bytes} (h : IsLine line) : IsUncut line :=
  fun hcut => h.1 (hcut.subset List.mem_cons_self)

/-- What stands in uncut bytes is uncut. -/
theorem IsUncut.of_isInfix {bytes piece : Bytes} (h : IsUncut bytes) (hpiece : piece <:+: bytes) :
    IsUncut piece :=
  fun hcut => h (hcut.trans hpiece)

/-- Two uncut pieces are uncut together, unless there is a line end across their seam. -/
theorem IsUncut.append {a b : Bytes} (ha : IsUncut a) (hb : IsUncut b)
    (hseam : ¬ (a.getLast? = some 13 ∧ b.head? = some 10)) : IsUncut (a ++ b) := by
  intro hcut
  rcases List.infix_append_iff.mp hcut with hleft | hright | ⟨left, right, heq, hleft, hright⟩
  · exact ha hleft
  · exact hb hright
  · -- One of the two bytes lies on each side, or both lie on one.
    match left, heq with
    | [], heq => exact hb (heq ▸ hright.isInfix)
    | [c], heq =>
      cases heq
      obtain ⟨a, rfl⟩ := hleft
      obtain ⟨b, rfl⟩ := hright
      exact hseam ⟨List.getLast?_concat, rfl⟩
    | [c, d], heq =>
      cases heq
      exact ha hleft.isInfix

/-- The bytes of a line are gathered until its end. -/
private theorem crlfLines_go_append (piece : Bytes) {line : Bytes}
    (hline : IsUncut (piece.reverse ++ line)) (rest : Bytes) :
    crlfLines.go piece (line ++ rest) = crlfLines.go (line.reverse ++ piece) rest := by
  induction line generalizing piece with
  | nil => rfl
  | cons c line ih =>
    -- A line feed after a carriage return would be a line end.
    have hc : ¬ (c = 10 ∧ piece.head? = some 13) := by
      rintro ⟨rfl, hpiece⟩
      obtain ⟨piece, rfl⟩ := List.head?_eq_some_iff.mp hpiece
      exact hline ⟨piece.reverse, line, by simp [crlf]⟩
    have hrest : IsUncut ((c :: piece).reverse ++ line) := by simpa using hline
    rw [List.cons_append, crlfLines.go, if_neg hc, ih _ hrest, List.reverse_cons, List.append_assoc]
    rfl

/-- Lines are cut where they were joined, also if they hold single bytes of line ends. -/
theorem crlfLines_joinLines_of_isUncut {line : Bytes} {lines : List Bytes}
    (h : ∀ member ∈ line :: lines, IsUncut member) :
    crlfLines (joinLines line lines) = line :: lines := by
  induction lines generalizing line with
  | nil =>
    have hgo := crlfLines_go_append [] (h line List.mem_cons_self) []
    rw [List.append_nil, List.append_nil] at hgo
    rw [joinLines_nil, crlfLines, hgo, crlfLines.go, List.reverse_reverse]
  | cons next lines ih =>
    have hrest := ih fun member hmem => h member (List.mem_cons_of_mem line hmem)
    rw [crlfLines] at hrest
    rw [joinLines_cons, crlfLines, crlfLines_go_append [] (h line List.mem_cons_self)]
    -- The line end is seen at its second byte.
    simp only [crlfLines.go, List.append_nil, List.head?_cons, List.tail_cons, and_self, if_true,
      List.reverse_reverse, hrest]
    simp

/-- Lines are cut where they were joined. -/
theorem crlfLines_joinLines {line : Bytes} {lines : List Bytes}
    (h : ∀ member ∈ line :: lines, IsLine member) :
    crlfLines (joinLines line lines) = line :: lines :=
  crlfLines_joinLines_of_isUncut fun member hmem => (h member hmem).isUncut

/-- Every text is a row of lines. -/
theorem exists_eq_joinLines (text : Bytes) :
    ∃ line lines, text = joinLines line lines ∧ ∀ member ∈ line :: lines, IsUncut member := by
  induction text with
  | nil => exact ⟨[], [], rfl, by simp [IsUncut, crlf]⟩
  | cons c text ih =>
    obtain ⟨line, lines, rfl, huncut⟩ := ih
    rw [List.forall_mem_cons] at huncut
    by_cases hend : c = 13 ∧ line.head? = some 10
    · -- The byte completes a line end, and what was the first line begins after that.
      obtain ⟨rfl, hline⟩ := hend
      obtain ⟨line, rfl⟩ := List.head?_eq_some_iff.mp hline
      refine ⟨[], line :: lines, rfl, ?_⟩
      rw [List.forall_mem_cons, List.forall_mem_cons]
      exact ⟨by simp [IsUncut, crlf], huncut.1.of_isInfix (List.suffix_cons 10 line).isInfix,
        huncut.2⟩
    · refine ⟨c :: line, lines, rfl, List.forall_mem_cons.mpr ⟨fun hcut => ?_, huncut.2⟩⟩
      rcases List.infix_cons_iff.mp hcut with hfront | hcut
      · rw [crlf, List.cons_prefix_cons] at hfront
        obtain ⟨rfl, rest, rfl⟩ := hfront
        exact hend ⟨rfl, rfl⟩
      · exact huncut.1 hcut

/-- The lines of a text are the only ones that it is a row of. -/
theorem crlfLines_eq_cons_iff {text line : Bytes} {lines : List Bytes} :
    crlfLines text = line :: lines ↔
      text = joinLines line lines ∧ ∀ member ∈ line :: lines, IsUncut member := by
  constructor
  · intro h
    obtain ⟨line', lines', rfl, huncut⟩ := exists_eq_joinLines text
    rw [crlfLines_joinLines_of_isUncut huncut] at h
    cases h
    exact ⟨rfl, huncut⟩
  · rintro ⟨rfl, huncut⟩
    exact crlfLines_joinLines_of_isUncut huncut

/-- Two texts with a line end between them have the lines of both. -/
theorem crlfLines_append_crlf (a b : Bytes) :
    crlfLines (a ++ crlf ++ b) = crlfLines a ++ crlfLines b := by
  obtain ⟨line, lines, rfl, hleft⟩ := exists_eq_joinLines a
  obtain ⟨next, rest, rfl, hright⟩ := exists_eq_joinLines b
  have hjoin : joinLines line lines ++ crlf ++ joinLines next rest =
      joinLines line (lines ++ next :: rest) := by simp [joinLines]
  rw [hjoin, crlfLines_joinLines_of_isUncut hleft, crlfLines_joinLines_of_isUncut hright,
    crlfLines_joinLines_of_isUncut, List.cons_append]
  exact List.forall_mem_append.mpr ⟨hleft, hright⟩

/-- Where two texts meet, the last line of the first one goes on with the first line of the second,
unless there is a line end across the seam. -/
theorem crlfLines_append {a b last next : Bytes} {lines rest : List Bytes}
    (ha : crlfLines a = lines ++ [last]) (hb : crlfLines b = next :: rest)
    (hseam : ¬ (a.getLast? = some 13 ∧ b.head? = some 10)) :
    crlfLines (a ++ b) = lines ++ (last ++ next) :: rest := by
  obtain ⟨rfl, hright⟩ := crlfLines_eq_cons_iff.mp hb
  rw [List.forall_mem_cons] at hright
  have hfirst (hnext : next.head? = some 10) : (joinLines next rest).head? = some 10 := by
    rw [joinLines, List.head?_append, hnext, Option.some_or]
  cases lines with
  | nil =>
    obtain ⟨rfl, hleft⟩ := crlfLines_eq_cons_iff.mp ha
    rw [joinLines_nil] at hseam
    refine crlfLines_eq_cons_iff.mpr ⟨by simp [joinLines], List.forall_mem_cons.mpr ⟨?_, hright.2⟩⟩
    exact (hleft last List.mem_cons_self).append hright.1 fun hcut =>
      hseam ⟨hcut.1, hfirst hcut.2⟩
  | cons line lines =>
    rw [List.cons_append] at ha
    obtain ⟨rfl, hleft⟩ := crlfLines_eq_cons_iff.mp ha
    rw [← List.cons_append, List.forall_mem_append, List.forall_mem_singleton] at hleft
    have hjoined : IsUncut (last ++ next) :=
      hleft.2.append hright.1 fun hcut => hseam ⟨by
        rw [joinLines, List.flatMap_append, List.flatMap_singleton, ← List.append_assoc,
          ← List.append_assoc, List.getLast?_append, hcut.1, Option.some_or], hfirst hcut.2⟩
    rw [List.cons_append]
    refine crlfLines_eq_cons_iff.mpr ⟨by simp [joinLines], ?_⟩
    exact List.forall_mem_append.mpr ⟨hleft.1, List.forall_mem_cons.mpr ⟨hjoined, hright.2⟩⟩

/-- There is always a last line. -/
theorem exists_crlfLines_eq_concat (text : Bytes) :
    ∃ lines last, crlfLines text = lines ++ [last] := by
  obtain ⟨line, lines, rfl, huncut⟩ := exists_eq_joinLines text
  rw [crlfLines_joinLines_of_isUncut huncut]
  rcases List.eq_nil_or_concat' (line :: lines) with hnil | hconcat
  · cases hnil
  · exact hconcat

/-- A place that is moved twice is moved by both lengths together. -/
theorem map_add_map (a b : Nat) (place : Option Nat) :
    (place.map (b + ·)).map (a + ·) = place.map (a + b + ·) := by
  rw [Option.map_map]
  congr 1
  funext i
  exact (Nat.add_assoc a b i).symm

/-- A search passes the bytes that the pattern does not begin with. -/
theorem search?_append_of_not_mem {c : UInt8} {pattern line : Bytes} (hline : c ∉ line)
    (rest : Bytes) : search? (c :: pattern) (line ++ rest) =
      (search? (c :: pattern) rest).map (line.length + ·) := by
  induction line with
  | nil => simp
  | cons d line ih =>
    have hne : c ≠ d := fun heq => hline (heq ▸ List.mem_cons_self)
    have hprefix : ¬ c :: pattern <+: d :: (line ++ rest) := fun h =>
      hne (List.cons_prefix_cons.mp h).1
    rw [List.cons_append, search?_cons, if_neg hprefix,
      ih fun hmem => hline (List.mem_cons_of_mem d hmem), map_add_map, List.length_cons,
      Nat.add_comm 1]

end Bytes

namespace Http

open Bytes (IsLine joinLines)

/-- The line may follow another one in a head: it is not empty, and it does not continue the line
before it. -/
structure IsHeader (line : Bytes) : Prop where
  isLine : IsLine line
  ne_nil : line ≠ []
  isContinuation : isContinuation line = false

/-- The lines make a head, which is a text. -/
structure IsHead (line : Bytes) (headers : List Bytes) : Prop where
  isLine : IsLine line
  isHeader : ∀ header ∈ headers, IsHeader header
  isText : ∃ text, joinLines line headers = .ofString text

theorem forall_mem_isLine {line : Bytes} {headers : List Bytes} (hline : IsLine line)
    (hheaders : ∀ header ∈ headers, IsHeader header) :
    ∀ member ∈ line :: headers, IsLine member := by
  rw [List.forall_mem_cons]
  exact ⟨hline, fun header hmem => (hheaders header hmem).isLine⟩

/-- A line end that is not followed by another one is not part of a blank line. -/
private theorem search?_blankLine_of_lineEnd {c : UInt8} (hc : c ≠ 13) (rest : Bytes) :
    Bytes.search? blankLine (13 :: 10 :: c :: rest) =
      (Bytes.search? blankLine (c :: rest)).map (2 + ·) := by
  have hfirst : ¬ blankLine <+: 13 :: 10 :: c :: rest := by
    simp [blankLine, List.cons_prefix_cons, hc.symm]
  have hsecond : ¬ blankLine <+: 10 :: c :: rest := by simp [blankLine, List.cons_prefix_cons]
  rw [Bytes.search?_cons, if_neg hfirst, Bytes.search?_cons, if_neg hsecond, Bytes.map_add_map]

/-- A line and its end are no part of a blank line, unless another line end follows. -/
theorem headEnd?_line_append {line rest : Bytes} (hline : IsLine line)
    (hrest : rest.head? ≠ some 13) :
    headEnd? (line ++ 13 :: 10 :: rest) = (headEnd? rest).map (line.length + 2 + ·) := by
  have hend : Bytes.search? blankLine (13 :: 10 :: rest) =
      (Bytes.search? blankLine rest).map (2 + ·) := by
    cases rest with
    | nil => rfl
    | cons c rest => exact search?_blankLine_of_lineEnd (fun heq => hrest (congrArg some heq)) rest
  rw [headEnd?, headEnd?, blankLine, Bytes.search?_append_of_not_mem hline.1, ← blankLine, hend,
    Bytes.map_add_map]

/-- A line that is not empty does not begin with a line end. -/
theorem head?_line_append_ne {line : Bytes} (hline : IsLine line) (hne : line ≠ []) (rest : Bytes) :
    (line ++ rest).head? ≠ some 13 := by
  rw [List.head?_append_of_ne_nil line hne]
  exact fun hhead => hline.1 (List.mem_of_mem_head? hhead)

/-- Between lines that are not empty there is no blank line. -/
theorem headEnd?_joinLines {line : Bytes} {headers : List Bytes} (hline : IsLine line)
    (hheaders : ∀ header ∈ headers, IsLine header ∧ header ≠ []) (rest : Bytes) :
    headEnd? (joinLines line headers ++ blankLine ++ rest) =
      some (joinLines line headers).length := by
  induction headers generalizing line with
  | nil =>
    have hfound : Bytes.search? blankLine (blankLine ++ rest) = some 0 :=
      Bytes.search?_eq_some_iff.mpr
        ⟨⟨Nat.zero_le _, List.prefix_append _ _⟩, fun j hj => absurd hj (Nat.not_lt_zero j)⟩
    rw [Bytes.joinLines_nil, headEnd?, List.append_assoc, blankLine,
      Bytes.search?_append_of_not_mem hline.1]
    rw [blankLine] at hfound
    rw [hfound]
    rfl
  | cons next headers ih =>
    rw [List.forall_mem_cons] at hheaders
    obtain ⟨⟨hnext, hne⟩, hheaders⟩ := hheaders
    have hjoin : joinLines line (next :: headers) ++ blankLine ++ rest =
        line ++ 13 :: 10 :: (joinLines next headers ++ blankLine ++ rest) := by
      simp [Bytes.joinLines_cons]
    have hhead : (joinLines next headers ++ blankLine ++ rest).head? ≠ some 13 := by
      rw [joinLines, List.append_assoc, List.append_assoc]
      exact head?_line_append_ne hnext hne _
    rw [hjoin, headEnd?_line_append hline hhead, ih hnext hheaders, Option.map_some,
      Bytes.joinLines_cons, List.length_append, List.length_cons, List.length_cons,
      Option.some.injEq]
    omega

/-- Lines that continue nothing stay as they are. -/
theorem mergeContinuations_eq {lines : List Bytes}
    (h : ∀ line ∈ lines, isContinuation line = false) : mergeContinuations lines = ([], lines) := by
  induction lines with
  | nil => rfl
  | cons line lines ih =>
    have hrest := ih fun member hmem => h member (List.mem_cons_of_mem line hmem)
    simp [mergeContinuations, hrest, h line List.mem_cons_self]

namespace IsHead

variable {line : Bytes} {headers : List Bytes} (h : IsHead line headers)

include h

/-- The head ends before the blank line. -/
theorem headEnd?_eq (rest : Bytes) : headEnd? (joinLines line headers ++ blankLine ++ rest) =
    some (joinLines line headers).length :=
  headEnd?_joinLines h.isLine
    (fun header hmem => ⟨(h.isHeader header hmem).isLine, (h.isHeader header hmem).ne_nil⟩) rest

/-- The lines of the head are those that it was made of. -/
theorem logicalLines_eq : logicalLines (joinLines line headers) = line :: headers := by
  have hmerge := mergeContinuations_eq fun header hmem => (h.isHeader header hmem).isContinuation
  rw [logicalLines, Bytes.crlfLines_joinLines (forall_mem_isLine h.isLine h.isHeader)]
  simp only [hmerge, List.append_nil]

/-- What is read of the head is what its lines tell. -/
theorem parse_eq (rest : Bytes) :
    Request.parse (joinLines line headers ++ blankLine ++ rest) = .ofLines (line :: headers) := by
  have hhead : headOf (joinLines line headers ++ blankLine ++ rest) = joinLines line headers := by
    rw [headOf, h.headEnd?_eq, List.append_assoc]
    exact List.take_left
  obtain ⟨text, htext⟩ := h.isText
  have hvalid : Utf8.isValid (joinLines line headers) = true := htext ▸ Utf8.isValid_ofString text
  rw [Request.parse, hhead]
  simp only [hvalid, if_true, h.logicalLines_eq]

end IsHead

end Http

end MotionJpeg
