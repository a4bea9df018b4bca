import Mathlib.Data.List.DropRight
import MotionJpeg.Proofs.Bytes.Characters

/-!
# Reading by places

A text may be read by places: it is asked for the byte at a place, or for all that stands between
two places. Neither has to be there, and what stands between two places need not be whole
characters, so a reader of this kind may fail. Here are the readers that look for the ends of words
and blanks, each one with the bytes that it finds when it starts from whole characters.

* `Span` are two places, and `Span.bytes?` and `Span.text?` ask for what stands between them.
* `Span.Marks`: the places lie in the text, between characters, and these bytes between the two.
* `Span.skip?`, `Span.chop?`, `Span.trim?` and `Span.end?` go through a run of bytes.
* `Span.Marks.exists_skip?`, `Span.Marks.exists_trim?` and `Span.Marks.end?_cases`: they do not
  fail, and what they leave is again a run of whole characters.
-/

namespace MotionJpeg

/-- Two places in a text, which need not be there. -/
structure Span where
  start : Nat
  stop : Nat
  deriving DecidableEq, Repr

namespace Span

section Reading

variable (span : Span) (text : Bytes)

/-- What stands between two places. -/
def bytes : Bytes := text.extract span.start span.stop

/-- Asks for the bytes between two places. It fails unless these lie in the text in this order. -/
def bytes? : Option Bytes :=
  if span.start ≤ span.stop ∧ span.stop ≤ text.length then some (span.bytes text) else none

/-- Asks for the characters between two places. It fails unless these lie in the text in this order
and cut no character. -/
def text? : Option Bytes :=
  if span.start ≤ span.stop ∧ Utf8.isBoundary text span.start ∧ Utf8.isBoundary text span.stop then
    some (span.bytes text)
  else none

/-- Moves the start over the bytes of one kind, one by one. It fails at a byte that is not there. -/
def skip? (kind : UInt8 → Bool) (text : Bytes) (span : Span) : Option Span :=
  if span.start < span.stop then do
    let c ← text[span.start]?
    if kind c then skip? kind text ⟨span.start + 1, span.stop⟩ else return span
  else return span
termination_by span.stop - span.start

/-- Moves the stop back over the bytes of one kind, one by one. It fails at a byte that is not
there. -/
def chop? (kind : UInt8 → Bool) (text : Bytes) (span : Span) : Option Span :=
  if span.start < span.stop then do
    let c ← text[span.stop - 1]?
    if kind c then chop? kind text ⟨span.start, span.stop - 1⟩ else return span
  else return span
termination_by span.stop - span.start

/-- Takes the blanks off at either end. -/
def trim? : Option Span := do
  let rest ← span.skip? Ascii.isBlank text
  rest.chop? Ascii.isBlank text

/-- The place of the first byte that is not of this kind, if there is one. It fails where there are
no bytes to look through. -/
def end? (kind : UInt8 → Bool) (text : Bytes) (span : Span) : Option (Option Nat) := do
  let bytes ← span.bytes? text
  return (bytes.findIdx? fun c => !kind c).map (span.start + ·)

end Reading

/-- The places lie in the text in this order, they cut no character, and these are the bytes between
them. -/
structure Marks (span : Span) (text bytes : Bytes) : Prop where
  start_le_stop : span.start ≤ span.stop
  isBoundary_start : Utf8.IsBoundary text span.start
  isBoundary_stop : Utf8.IsBoundary text span.stop
  bytes_eq : span.bytes text = bytes

variable {span : Span} {text bytes a b : Bytes} {c : UInt8} {kind : UInt8 → Bool}

/-- The front of a text can be asked for up to any place of it. -/
theorem bytes?_front {i : Nat} (h : i ≤ text.length) :
    bytes? ⟨0, i⟩ text = some (text.take i) := by
  rw [bytes?, if_pos ⟨Nat.zero_le i, h⟩, bytes, List.extract_eq_take_drop]
  rfl

/-- Marked bytes are a text, and so is what stands before them. -/
theorem marks_iff : span.Marks text bytes ↔
    ∃ before after, text = before ++ (bytes ++ after) ∧
      span = ⟨before.length, before.length + bytes.length⟩ ∧
        Utf8.isValid before = true ∧ Utf8.isValid bytes = true := by
  constructor
  · -- The text is cut at the two places.
    rintro ⟨horder, hstart, hstop, rfl⟩
    have hlength := hstop.le_length
    have htake : text.take span.stop = text.take span.start ++ span.bytes text := by
      obtain ⟨n, hn⟩ := Nat.exists_eq_add_of_le horder
      rw [bytes, List.extract_eq_take_drop, hn, Nat.add_sub_cancel_left, List.take_add]
    refine ⟨text.take span.start, text.drop span.stop, ?_, ?_, hstart.isValid_take, ?_⟩
    · rw [← List.append_assoc, ← htake, List.take_append_drop]
    · rw [bytes, List.extract_eq_take_drop, List.length_take, List.length_take, List.length_drop]
      cases span
      congr 1
      · dsimp only at *
        omega
      · dsimp only at *
        omega
    · rw [← Utf8.isValid_append_iff hstart.isValid_take, ← htake]
      exact hstop.isValid_take
  · -- What stands before the second place is a text, as two texts one after the other are.
    rintro ⟨before, after, rfl, rfl, hbefore, hbytes⟩
    have hcut : (before ++ (bytes ++ after)).take (before.length + bytes.length) =
        before ++ bytes := by
      rw [← List.append_assoc, ← List.length_append, List.take_left]
    refine ⟨Nat.le_add_right _ _, ⟨?_, ?_⟩, ⟨?_, ?_⟩, ?_⟩
    · simp
    · rwa [List.take_left]
    · simp only [List.length_append]
      omega
    · rw [hcut]
      exact Utf8.isValid_append hbefore hbytes
    · rw [Span.bytes, List.extract_eq_take_drop, List.drop_left, Nat.add_sub_cancel_left,
        List.take_left]

namespace Marks

/-- A text marks itself. -/
theorem whole (htext : Utf8.isValid text = true) : Marks ⟨0, text.length⟩ text text :=
  marks_iff.mpr ⟨[], [], by simp, by simp, rfl, htext⟩

/-- There is nothing at the front. -/
theorem nothing (text : Bytes) : Marks ⟨0, 0⟩ text [] :=
  marks_iff.mpr ⟨[], text, rfl, rfl, rfl, rfl⟩

theorem isValid (h : span.Marks text bytes) : Utf8.isValid bytes = true := by
  obtain ⟨-, -, -, -, -, hbytes⟩ := marks_iff.mp h
  exact hbytes

theorem isInfix (h : span.Marks text bytes) : bytes <:+: text := by
  obtain ⟨before, after, rfl, -⟩ := marks_iff.mp h
  exact ⟨before, after, List.append_assoc _ _ _⟩

theorem stop_eq (h : span.Marks text bytes) : span.stop = span.start + bytes.length := by
  obtain ⟨before, -, -, rfl, -⟩ := marks_iff.mp h
  rfl

/-- A marked byte is there. -/
theorem getElem?_eq (h : span.Marks text (a ++ c :: b)) :
    text[span.start + a.length]? = some c := by
  obtain ⟨before, after, rfl, rfl, -⟩ := marks_iff.mp h
  rw [List.getElem?_append_right (Nat.le_add_right _ _), Nat.add_sub_cancel_left,
    List.append_assoc, List.getElem?_append_right (Nat.le_refl _), Nat.sub_self]
  rfl

/-- Marked bytes can be cut where the first ones are whole characters. -/
theorem split (h : span.Marks text (a ++ b)) (ha : Utf8.isValid a = true) :
    Marks ⟨span.start, span.start + a.length⟩ text a ∧
      Marks ⟨span.start + a.length, span.stop⟩ text b := by
  obtain ⟨before, after, rfl, rfl, hbefore, hbytes⟩ := marks_iff.mp h
  have hb : Utf8.isValid b = true := (Utf8.isValid_append_iff ha).mp hbytes
  constructor
  · exact marks_iff.mpr ⟨before, b ++ after, by rw [List.append_assoc], rfl, hbefore, ha⟩
  · refine marks_iff.mpr ⟨before ++ a, after, by simp only [List.append_assoc], ?_,
      Utf8.isValid_append hbefore ha, hb⟩
    simp only [List.length_append, Nat.add_assoc]

/-- The bytes between marked places can be asked for. -/
theorem bytes?_eq (h : span.Marks text bytes) : span.bytes? text = some bytes := by
  rw [bytes?, if_pos ⟨h.start_le_stop, h.isBoundary_stop.le_length⟩, h.bytes_eq]

/-- The characters between marked places can be asked for. -/
theorem text?_eq (htext : Utf8.isValid text = true) (h : span.Marks text bytes) :
    span.text? text = some bytes := by
  rw [text?, if_pos ⟨h.start_le_stop, (Utf8.isBoundary_iff htext).mpr h.isBoundary_start,
    (Utf8.isBoundary_iff htext).mpr h.isBoundary_stop⟩, h.bytes_eq]

/-- Half a character cannot be asked for. -/
example : Span.text? ⟨0, 1⟩ [0xC3, 0xA9] = none := by decide

/-- Two texts, one after the other. -/
theorem both (ha : Utf8.isValid a = true) (hb : Utf8.isValid b = true) :
    Marks ⟨0, a.length⟩ (a ++ b) a ∧ Marks ⟨a.length, (a ++ b).length⟩ (a ++ b) b := by
  have hcut := (whole (Utf8.isValid_append ha hb)).split ha
  rwa [Nat.zero_add] at hcut

/-- What follows a word at the front of a text, which may be in other letters there. -/
theorem behind {word : Bytes} (htext : Utf8.isValid text = true) (hword : Utf8.isValid word = true)
    (hequal : Ascii.equalsIgnoreCase (text.take word.length) word = true) :
    Marks ⟨word.length, text.length⟩ text (text.drop word.length) := by
  have hlength := Ascii.length_le_of_equalsIgnoreCase_take hequal
  -- The word ends between two characters of the text, as it does by itself.
  have hcut : Utf8.IsBoundary text word.length :=
    ⟨hlength, (Utf8.isValid_eq_of_equalsIgnoreCase hequal).trans hword⟩
  have hback := (both hcut.isValid_take (hcut.isValid_drop htext)).2
  rwa [List.take_append_drop, List.length_take, Nat.min_eq_left hlength] at hback

/-- The bytes of an ASCII kind are skipped at the front. -/
theorem exists_skip? (hkind : ∀ c, kind c = true → c < 0x80) (h : span.Marks text bytes) :
    ∃ place, span.skip? kind text = some ⟨place, span.stop⟩ ∧
      Marks ⟨place, span.stop⟩ text (bytes.dropWhile kind) := by
  induction bytes generalizing span with
  | nil =>
    have hstop := h.stop_eq
    rw [List.length_nil, Nat.add_zero] at hstop
    exact ⟨span.start, by rw [skip?, if_neg (by omega)]; rfl, h⟩
  | cons c bytes ih =>
    have hstop := h.stop_eq
    rw [List.length_cons] at hstop
    have hbyte : text[span.start]? = some c := h.getElem?_eq (a := [])
    rw [skip?, if_pos (by omega), hbyte, Option.bind_eq_bind, Option.bind_some]
    by_cases hc : kind c = true
    · -- The byte was a character by itself, so the run behind it is marked as well.
      have hsingle : Utf8.isValid [c] = true := Utf8.isValid_of_forall_lt (by simpa using hkind c hc)
      rw [if_pos hc, List.dropWhile_cons_of_pos hc]
      exact ih (h.split (a := [c]) hsingle).2
    · rw [if_neg hc, List.dropWhile_cons_of_neg hc]
      exact ⟨span.start, rfl, h⟩

/-- The bytes of an ASCII kind are taken off at the end. -/
theorem exists_chop? (hkind : ∀ c, kind c = true → c < 0x80) (h : span.Marks text bytes) :
    ∃ place, span.chop? kind text = some ⟨span.start, place⟩ ∧
      Marks ⟨span.start, place⟩ text (bytes.rdropWhile kind) := by
  -- The stop moves, so the induction is from the end of the run.
  induction bytes using List.reverseRecOn generalizing span with
  | nil =>
    have hstop := h.stop_eq
    rw [List.length_nil, Nat.add_zero] at hstop
    exact ⟨span.stop, by rw [chop?, if_neg (by omega)]; rfl, h⟩
  | append_singleton bytes c ih =>
    have hstop := h.stop_eq
    rw [List.length_append, List.length_singleton] at hstop
    have hplace : span.stop - 1 = span.start + bytes.length := by omega
    rw [chop?, if_pos (by omega), hplace, h.getElem?_eq, Option.bind_eq_bind, Option.bind_some]
    by_cases hc : kind c = true
    · have hfront : Utf8.isValid bytes = true :=
        (Utf8.isValid_append_iff_left (by simpa using hkind c hc)).mp h.isValid
      rw [if_pos hc, List.rdropWhile_concat_pos _ _ _ hc]
      exact ih (h.split hfront).1
    · rw [if_neg hc, List.rdropWhile_concat_neg _ _ _ hc]
      exact ⟨span.stop, rfl, h⟩

/-- A run is trimmed to the bytes without the blanks at either end. -/
theorem exists_trim? (h : span.Marks text bytes) :
    ∃ rest, span.trim? text = some rest ∧ rest.Marks text (Ascii.trimBlanks bytes) := by
  obtain ⟨start, hskip, hback⟩ := h.exists_skip? fun _ => Ascii.lt_of_isBlank
  obtain ⟨stop, hchop, hrest⟩ := hback.exists_chop? fun _ => Ascii.lt_of_isBlank
  exact ⟨⟨start, stop⟩, by rw [trim?, hskip, Option.bind_eq_bind, Option.bind_some, hchop], hrest⟩

end Marks

/-- The first byte of another kind stands behind those of this kind at the front. -/
theorem findIdx?_not_eq (kind : UInt8 → Bool) (bytes : Bytes) :
    bytes.findIdx? (fun c => !kind c) =
      if bytes.dropWhile kind = [] then none else some (bytes.takeWhile kind).length := by
  induction bytes with
  | nil => rfl
  | cons c bytes ih =>
    rw [List.findIdx?_cons]
    by_cases hc : kind c = true
    · rw [List.dropWhile_cons_of_pos hc, List.takeWhile_cons_of_pos hc, ih]
      simp only [hc, Bool.not_true, Bool.false_eq_true, if_false]
      split <;> rfl
    · rw [List.dropWhile_cons_of_neg hc, List.takeWhile_cons_of_neg hc]
      simp [hc]

/-- The bytes of one kind at the front of a run end at a place, with `c` there and `rest` behind
it. -/
structure EndsAt (kind : UInt8 → Bool) (span : Span) (text bytes : Bytes) (place : Nat) (c : UInt8)
    (rest : Bytes) : Prop where
  getElem?_eq : text[place]? = some c
  dropWhile_eq : bytes.dropWhile kind = c :: rest
  marks_front : Marks ⟨span.start, place⟩ text (bytes.takeWhile kind)
  marks_back : Marks ⟨place, span.stop⟩ text (c :: rest)
  marks_rest : Marks ⟨place + 1, span.stop⟩ text rest

/-- The first byte of another kind is found, if only ASCII bytes are of another kind. -/
theorem Marks.end?_cases (hkind : ∀ c, kind c = false → c < 0x80) (h : span.Marks text bytes) :
    span.end? kind text = some none ∧ bytes.dropWhile kind = [] ∧ bytes.takeWhile kind = bytes ∨
      ∃ place c rest, span.end? kind text = some (some place) ∧
        span.EndsAt kind text bytes place c rest := by
  have hend : span.end? kind text =
      some ((bytes.findIdx? fun c => !kind c).map (span.start + ·)) := by
    rw [end?, h.bytes?_eq]
    rfl
  have hsplit := List.takeWhile_append_dropWhile (p := kind) (l := bytes)
  rw [findIdx?_not_eq] at hend
  cases hrest : bytes.dropWhile kind with
  | nil =>
    -- All bytes of the run are of this kind.
    rw [hrest, List.append_nil] at hsplit
    rw [if_pos hrest] at hend
    exact Or.inl ⟨hend, rfl, hsplit⟩
  | cons c rest =>
    rw [if_neg (by rw [hrest]; exact List.cons_ne_nil c rest)] at hend
    have hother : kind c = false := by
      have hhead := List.head?_dropWhile_not kind bytes
      rwa [hrest] at hhead
    have hbytes : span.Marks text (bytes.takeWhile kind ++ c :: rest) := by
      rwa [← hrest, hsplit]
    -- The byte of another kind is a character by itself, so it is cut off on both sides.
    have hcut := (Utf8.isValid_append_cons_iff (hkind c hother)).mp hbytes.isValid
    obtain ⟨hmarks, hback⟩ := hbytes.split hcut.1
    have hsingle : Utf8.isValid [c] = true :=
      Utf8.isValid_of_forall_lt (by simpa using hkind c hother)
    exact Or.inr ⟨_, c, rest, hend, hbytes.getElem?_eq, hrest, hmarks, hback,
      (hback.split (a := [c]) hsingle).2⟩

end Span

end MotionJpeg
