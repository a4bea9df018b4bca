import MotionJpeg.Proofs.Bytes.Characters
import MotionJpeg.Proofs.Http.Lines

/-!
# Values of headers

A line with a header that is read is the name with its colon, in letters of any case, and the value
between blanks. The value is read without the blanks, and for that header alone.

* `Ascii.trimBlanks_padded`: to trim a value leaves it without the blanks around it.
* `HeaderName` are the headers that a request is read for, `HeaderLine` is a line of a head.
* `HeaderLine.IsWellFormed.headerValue?_eq`: what each header finds on a line.
-/

namespace MotionJpeg

namespace Ascii

theorem isSpaceOrTab_of_not_isBlank {c : UInt8} (h : isBlank c = false) :
    isSpaceOrTab c = false := by
  simp_all [isBlank]

/-- What does not begin with such a byte loses none. -/
theorem dropWhile_eq_self {p : UInt8 → Bool} {bytes : Bytes} (h : ∀ c ∈ bytes.head?, p c = false) :
    bytes.dropWhile p = bytes := by
  cases bytes with
  | nil => rfl
  | cons c bytes => exact List.dropWhile_cons_of_neg (by simp [h c rfl])

/-- Between blanks is a value that begins and ends with none. -/
theorem trimBlanks_padded {before value after : Bytes}
    (hbefore : ∀ c ∈ before, isBlank c = true) (hafter : ∀ c ∈ after, isBlank c = true)
    (hhead : ∀ c ∈ value.head?, isBlank c = false)
    (hlast : ∀ c ∈ value.getLast?, isBlank c = false) :
    trimBlanks (before ++ value ++ after) = value := by
  rw [trimBlanks, List.append_assoc, List.dropWhile_append_of_pos hbefore]
  by_cases hvalue : value = []
  · -- There are only blanks, and all of them go at once.
    rw [hvalue, List.nil_append, List.dropWhile_eq_nil_iff.mpr hafter]
    rfl
  · -- The front ends with the first byte of the value, and the back with its last one.
    have hfront : ∀ c ∈ (value ++ after).head?, isBlank c = false := by
      rw [List.head?_append_of_ne_nil _ hvalue]
      exact hhead
    have hback : ∀ c ∈ value.reverse.head?, isBlank c = false := by
      rw [List.head?_reverse]
      exact hlast
    have hafter' : ∀ c ∈ after.reverse, isBlank c = true := fun c hc =>
      hafter c (List.mem_reverse.mp hc)
    rw [dropWhile_eq_self hfront, List.reverse_append, List.dropWhile_append_of_pos hafter',
      dropWhile_eq_self hback, List.reverse_reverse]

/-- What is not among the letters of a word, in either case, is not in the word. -/
theorem not_mem_of_equalsIgnoreCase {a b : Bytes} (h : equalsIgnoreCase a b = true) {c : UInt8}
    (hc : toLower c ∉ b.map toLower) : c ∉ a :=
  fun hmem => hc (beq_iff_eq.mp h ▸ List.mem_map_of_mem hmem)

end Ascii

namespace Http

/-- The bytes hold no blank, so they can stand between blanks. -/
def IsToken (bytes : Bytes) : Prop := ∀ c ∈ bytes, Ascii.isBlank c = false

instance : DecidablePred IsToken := fun _ => inferInstanceAs (Decidable (∀ _ ∈ _, _))

/-- Bytes without blanks hold no line end. -/
theorem IsToken.isLine {token : Bytes} (h : IsToken token) : Bytes.IsLine token :=
  ⟨fun hmem => absurd (h 13 hmem) (by decide), fun hmem => absurd (h 10 hmem) (by decide)⟩

/-- The headers that a request is read for. -/
inductive HeaderName where
  | host
  | authorization
  deriving DecidableEq, Repr

/-- A name with its colon. -/
def HeaderName.bytes : HeaderName → Bytes
  | host => .ofString "host:"
  | authorization => .ofString "authorization:"

/-- A line of a head after the first one. -/
inductive HeaderLine where
  /-- A header that is read: the name with its colon as it stands there, and the value between
  blanks. -/
  | known (header : HeaderName) (name before value after : Bytes)
  /-- Any other line. -/
  | other (line : Bytes)
  deriving DecidableEq, Repr

namespace HeaderLine

/-- The line as it is sent. -/
def bytes : HeaderLine → Bytes
  | known _ name before value after => name ++ (before ++ value ++ after)
  | other line => line

/-- The value of a header, if this line has one. -/
def value? (header : HeaderName) : HeaderLine → Option Bytes
  | .known own _ _ value _ => if own = header then some value else none
  | .other _ => none

/-- The line is what it is said to be, and can stand in a head. -/
inductive IsWellFormed : HeaderLine → Prop where
  | known {header : HeaderName} {name before value after : Bytes}
      (hname : Ascii.equalsIgnoreCase name header.bytes = true)
      (hbefore : ∀ c ∈ before, Ascii.isSpaceOrTab c = true)
      (hafter : ∀ c ∈ after, Ascii.isSpaceOrTab c = true)
      (hvalue : Bytes.IsLine value)
      (hhead : ∀ c ∈ value.head?, Ascii.isBlank c = false)
      (hlast : ∀ c ∈ value.getLast?, Ascii.isBlank c = false) :
      IsWellFormed (known header name before value after)
  | other {line : Bytes} (hheader : IsHeader line)
      (hnone : ∀ header : HeaderName,
        Ascii.equalsIgnoreCase (line.take header.bytes.length) header.bytes = false) :
      IsWellFormed (other line)

end HeaderLine

/-- A name does not begin like the other one. -/
theorem headerValue?_of_head_ne {name line : Bytes} (hname : name ≠ [])
    (hne : line.head?.map Ascii.toLower ≠ name.head?.map Ascii.toLower) :
    headerValue? name line = none := by
  refine if_neg fun hequal => hne ?_
  have hheads := congrArg List.head? (beq_iff_eq.mp hequal)
  rw [List.head?_map, List.head?_map] at hheads
  rw [← hheads]
  cases name with
  | nil => exact absurd rfl hname
  | cons c name => cases line <;> rfl

/-- A header with a value between blanks is read as the value. -/
theorem headerValue?_known {header : Bytes} {name before value after : Bytes}
    (hname : Ascii.equalsIgnoreCase name header = true)
    (hbefore : ∀ c ∈ before, Ascii.isSpaceOrTab c = true)
    (hafter : ∀ c ∈ after, Ascii.isSpaceOrTab c = true)
    (hhead : ∀ c ∈ value.head?, Ascii.isBlank c = false)
    (hlast : ∀ c ∈ value.getLast?, Ascii.isBlank c = false) :
    headerValue? header (name ++ (before ++ value ++ after)) = some value := by
  have htake : (name ++ (before ++ value ++ after)).take header.length = name := by
    rw [← Ascii.length_eq_of_equalsIgnoreCase hname]
    exact List.take_left
  have hdrop : (name ++ (before ++ value ++ after)).drop header.length =
      before ++ value ++ after := by
    rw [← Ascii.length_eq_of_equalsIgnoreCase hname]
    exact List.drop_left
  rw [headerValue?, htake, if_pos hname, hdrop, Ascii.trimBlanks_padded
    (fun c hc => Ascii.isBlank_of_isSpaceOrTab (hbefore c hc))
    (fun c hc => Ascii.isBlank_of_isSpaceOrTab (hafter c hc)) hhead hlast]

/-- The first letter of a name, in either case. -/
theorem exists_cons_of_equalsIgnoreCase {name : Bytes} {header : HeaderName}
    (hname : Ascii.equalsIgnoreCase name header.bytes = true) : ∃ c rest, name = c :: rest ∧
      header.bytes.head?.map Ascii.toLower = some (Ascii.toLower c) := by
  have hmap := beq_iff_eq.mp hname
  cases name with
  | nil => cases header <;> cases hmap
  | cons c rest =>
    have hheads := congrArg List.head? hmap
    rw [List.head?_map, List.head?_map] at hheads
    exact ⟨c, rest, rfl, hheads.symm⟩

/-- Blanks hold no line end. -/
theorem isLine_of_isSpaceOrTab {bytes : Bytes} (h : ∀ c ∈ bytes, Ascii.isSpaceOrTab c = true) :
    Bytes.IsLine bytes :=
  ⟨fun hmem => absurd (h 13 hmem) (by decide), fun hmem => absurd (h 10 hmem) (by decide)⟩

/-- A name holds no line end, as its letters in the other case hold none. -/
theorem isLine_of_equalsIgnoreCase {name : Bytes} {header : HeaderName}
    (hname : Ascii.equalsIgnoreCase name header.bytes = true) : Bytes.IsLine name := by
  refine ⟨Ascii.not_mem_of_equalsIgnoreCase hname ?_, Ascii.not_mem_of_equalsIgnoreCase hname ?_⟩
  · cases header <;> decide
  · cases header <;> decide

/-- A header with a value between blanks may follow another line. -/
theorem isHeader_known {header : HeaderName} {name before value after : Bytes}
    (hname : Ascii.equalsIgnoreCase name header.bytes = true)
    (hbefore : ∀ c ∈ before, Ascii.isSpaceOrTab c = true)
    (hafter : ∀ c ∈ after, Ascii.isSpaceOrTab c = true) (hvalue : Bytes.IsLine value) :
    IsHeader (name ++ (before ++ value ++ after)) := by
  obtain ⟨c, rest, hcons, hfirst⟩ := exists_cons_of_equalsIgnoreCase hname
  refine ⟨?_, by rw [hcons]; exact List.cons_ne_nil _ _, ?_⟩
  · simp only [Bytes.isLine_append]
    exact ⟨isLine_of_equalsIgnoreCase hname,
      ⟨isLine_of_isSpaceOrTab hbefore, hvalue⟩, isLine_of_isSpaceOrTab hafter⟩
  · -- The first letter is none of the bytes that a continuation begins with.
    rw [isContinuation, hcons, List.cons_append, List.head?_cons, Option.any_some,
      Bool.eq_false_iff]
    intro hblank
    have hcase : c = 32 ∨ c = 9 := by simpa [Ascii.isSpaceOrTab] using hblank
    rcases hcase with rfl | rfl
    · cases header <;> exact absurd hfirst (by decide)
    · cases header <;> exact absurd hfirst (by decide)

namespace HeaderLine.IsWellFormed

variable {line : HeaderLine}

/-- A well-formed line may follow another one. -/
theorem isHeader (h : line.IsWellFormed) : IsHeader line.bytes := by
  cases h with
  | known hname hbefore hafter hvalue => exact isHeader_known hname hbefore hafter hvalue
  | other hheader => exact hheader

/-- Each header finds its own value on a line, and nothing else. -/
theorem headerValue?_eq (h : line.IsWellFormed) (header : HeaderName) :
    headerValue? header.bytes line.bytes = line.value? header := by
  cases h with
  | @known own name before value after hname hbefore hafter hvalue hhead hlast =>
    rw [value?]
    by_cases heq : own = header
    · subst heq
      rw [if_pos rfl]
      exact headerValue?_known hname hbefore hafter hhead hlast
    · -- The two names differ in their first letters.
      rw [if_neg heq]
      obtain ⟨c, rest, rfl, hfirst⟩ := exists_cons_of_equalsIgnoreCase hname
      refine headerValue?_of_head_ne (by cases header <;> decide) ?_
      rw [bytes, List.cons_append, List.head?_cons, Option.map_some, ← hfirst]
      cases own <;> cases header <;> first | exact absurd rfl heq | decide
  | other hheader hnone =>
    rw [value?, headerValue?, bytes, hnone header]
    rfl

end HeaderLine.IsWellFormed

end Http

end MotionJpeg
