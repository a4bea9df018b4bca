import MotionJpeg.Proofs.Http.Places
import MotionJpeg.Router

/-!
# Routing by places

Two things are cut out of the fields of a request before it is routed: the token behind the word
`Basic`, and the digits of the number of a source, behind its sign. The word, the sign and the
digits are ASCII, so these are whole characters whatever stands around them.

* `Http.BasicAuth.permits?` and `Router.sourceIndexOf?` cut them out by places, and
  `Http.BasicAuth.permits?_eq` and `Router.sourceIndexOf?_eq`: they decide as if nothing was cut.
* `Http.IsReadByPlaces`: what is looked for on a line is found in it.
* `Router.no_character_cut`: from the head of a request to its route nothing is asked for that is
  not there, and no character is cut.
-/

namespace MotionJpeg

open Http (headerSpan? headerValue? headOf logicalLines)

namespace Http.BasicAuth

/-- Whether a client is let in, with the word and the token cut out by places. It fails if they are
not there or cut a character. -/
def permits? (secret authorization : Option Bytes) : Option Bool :=
  match secret, authorization with
  | none, _ => return true
  | some _, none => return false
  | some secret, some value =>
    if value.length < scheme.length then return false
    else do
      let word ← Span.bytes? ⟨0, scheme.length⟩ value
      if Ascii.equalsIgnoreCase word scheme then
        let token ← Span.text? ⟨scheme.length, value.length⟩ value
        return token.dropWhile Ascii.isSpaceOrTab == secret
      else return false

/-- A value that is a text decides by places as it does. -/
theorem permits?_eq (secret : Option Bytes) {authorization : Option Bytes}
    (h : ∀ value ∈ authorization, Utf8.isValid value = true) :
    permits? secret authorization = some (permits secret authorization) := by
  match secret, authorization with
  | none, _ => rfl
  | some _, none => rfl
  | some secret, some value =>
    have hvalue : Utf8.isValid value = true := h value rfl
    simp only [permits?, permits, Option.bind_some, token?]
    by_cases hlength : value.length < scheme.length
    · have hshort := Nat.not_le.mpr hlength
      rw [if_pos hlength, if_neg (mt Ascii.length_le_of_equalsIgnoreCase_take hshort)]
      rfl
    · rw [if_neg hlength, Span.bytes?_front (by omega), Option.bind_eq_bind, Option.bind_some]
      by_cases hequal : Ascii.equalsIgnoreCase (value.take scheme.length) scheme = true
      · have hscheme : Utf8.isValid scheme = true := Utf8.isValid_ofString "Basic"
        have htoken := Span.Marks.behind hvalue hscheme hequal
        rw [if_pos hequal, if_pos hequal, htoken.text?_eq hvalue]
        rfl
      · rw [if_neg hequal, if_neg hequal]
        rfl

end Http.BasicAuth

namespace Router

/-- Whether a number is negative, and what follows its sign. It fails if that cuts a character. -/
def unsigned? (text : Bytes) : Option (Bool × Bytes) :=
  match text.head? with
  | some 45 => do return (true, ← Span.text? ⟨1, text.length⟩ text)
  | some 43 => do return (false, ← Span.text? ⟨1, text.length⟩ text)
  | _ => return (false, text)

/-- The digits at the front of a text. It fails if they cut a character. -/
def leadingDigits? (text : Bytes) : Option Bytes :=
  let stop := (text.findIdx? fun c => !Ascii.isDigit c).getD text.length
  if stop = 0 then return [] else Span.text? ⟨0, stop⟩ text

/-- The source that a text names, with its sign and its digits cut out by places. It fails if one of
them cuts a character. -/
def sourceIndexOf? (text : Bytes) (count : Nat) : Option (Option Nat) := do
  let (isNegative, unsigned) ← unsigned? (text.dropWhile Ascii.isSpaceOrTab)
  let digits ← leadingDigits? unsigned
  match Ascii.numberBelow? count digits with
  | some index => return if isNegative && index != 0 then none else some index
  | none => return none

variable {text : Bytes}

/-- A sign is a character by itself, and a text follows it. -/
theorem unsigned?_eq {unsigned : Bytes} (htext : Utf8.isValid text = true)
    (h : (if text.head? == some 45 || text.head? == some 43 then text.tail else text) = unsigned) :
    unsigned? text = some (text.head? == some 45, unsigned) ∧ Utf8.isValid unsigned = true := by
  have hsign {c : UInt8} (hhead : text.head? = some c) (hc : c < 0x80) :
      Span.text? ⟨1, text.length⟩ text = some text.tail ∧ Utf8.isValid text.tail = true := by
    obtain ⟨rest, rfl⟩ := List.head?_eq_some_iff.mp hhead
    have hrest : Utf8.isValid rest = true := (Utf8.isValid_cons_iff hc).mp htext
    have hsingle : Utf8.isValid [c] = true := (Utf8.isValid_cons_iff hc).mpr rfl
    exact ⟨(Span.Marks.both hsingle hrest).2.text?_eq htext, hrest⟩
  unfold unsigned?
  subst h
  split
  next hminus =>
    obtain ⟨hcut, hvalid⟩ := hsign hminus (by decide)
    simp [hcut, hminus, hvalid]
  next hplus =>
    obtain ⟨hcut, hvalid⟩ := hsign hplus (by decide)
    simp [hcut, hplus, hvalid]
  next hminus hplus => simp [eq_false hminus, eq_false hplus, htext]

/-- Digits are characters by themselves. -/
theorem leadingDigits?_eq (htext : Utf8.isValid text = true) :
    leadingDigits? text = some (text.takeWhile Ascii.isDigit) := by
  have hsplit := List.takeWhile_append_dropWhile (p := Ascii.isDigit) (l := text)
  -- Where there are digits only, the end of the text stands for the place behind them.
  have hstop : (text.findIdx? fun c => !Ascii.isDigit c).getD text.length =
      (text.takeWhile Ascii.isDigit).length := by
    rw [Span.findIdx?_not_eq]
    split
    next hnil =>
      rw [hnil, List.append_nil] at hsplit
      rw [hsplit, Option.getD_none]
    next => rfl
  rw [leadingDigits?, hstop]
  split
  next hnil => rw [List.length_eq_zero_iff.mp hnil]; rfl
  next =>
    have hdigits : Utf8.isValid (text.takeWhile Ascii.isDigit) = true :=
      Utf8.isValid_of_forall_lt fun c hc => Ascii.lt_of_isDigit (List.mem_takeWhile_imp hc)
    have hrest : Utf8.isValid (text.dropWhile Ascii.isDigit) = true :=
      Utf8.isValid_dropWhile (fun _ => Ascii.lt_of_isDigit) htext
    have hfront := (Span.Marks.both hdigits hrest).1
    rw [hsplit] at hfront
    exact hfront.text?_eq htext

/-- The number of a source is read by places as it is read. -/
theorem sourceIndexOf?_eq (htext : Utf8.isValid text = true) (count : Nat) :
    sourceIndexOf? text count = some (sourceIndex? text count) := by
  have htrimmed : Utf8.isValid (text.dropWhile Ascii.isSpaceOrTab) = true :=
    Utf8.isValid_dropWhile (fun _ => Ascii.lt_of_isSpaceOrTab) htext
  rw [sourceIndexOf?, sourceIndex?]
  generalize text.dropWhile Ascii.isSpaceOrTab = trimmed at htrimmed
  obtain ⟨hunsigned, hvalid⟩ := unsigned?_eq htrimmed rfl
  simp only [hunsigned, leadingDigits?_eq hvalid, Option.bind_eq_bind, Option.bind_some]
  generalize Ascii.numberBelow? count _ = number
  cases number <;> rfl

end Router

/-- What is looked for on a line lies in it and cuts no character: the parts of a first line, a run
of characters without the blanks at either end, and the value of a header, whatever its name is. -/
structure Http.IsReadByPlaces (line : Bytes) : Prop where
  firstLine : ∃ spans, RequestLine.Spans.ofLine? line = some spans ∧ spans.Marks line (.parse line)
  trimmed : ∀ (span : Span) (bytes : Bytes), span.Marks line bytes →
    ∃ rest, span.trim? line = some rest ∧ rest.Marks line (Ascii.trimBlanks bytes)
  header : ∀ name, Utf8.isValid name = true → ∃ span, headerSpan? name line = some span ∧
    Option.Rel (fun span value => span.Marks line value) span (headerValue? name line)

theorem Http.isReadByPlaces {line : Bytes} (hline : Utf8.isValid line = true) :
    IsReadByPlaces line where
  firstLine := RequestLine.Spans.exists_ofLine? hline
  trimmed _ _ hmarks := hmarks.exists_trim?
  header _ hname := exists_headerSpan? hname hline

namespace Router

/-- A request whose head is a text is read by places, from its lines to the number of its source,
and nothing is asked for that is not there: all that is found on a line lies in that line and cuts no
character, the request is the one that is read, each of its fields is a text that stands in one piece
on one of the lines, and so are the token of its credentials and the digits of the number. -/
theorem no_character_cut {data : Bytes} (hvalid : Utf8.isValid (headOf data) = true) :
    let request := Http.Request.parse data
    (∀ line ∈ logicalLines (headOf data), Http.IsReadByPlaces line) ∧
    Http.Request.read? data = some request ∧
    (∀ field ∈ request.fields,
      Utf8.isValid field = true ∧ ∃ line ∈ logicalLines (headOf data), field <:+: line) ∧
    (∀ secret, Http.BasicAuth.permits? secret request.authorization =
      some (Http.BasicAuth.permits secret request.authorization)) ∧
    ∀ start ∈ [streamPaths, stillPaths], ∀ text count, start.after? request.path = some text →
      sourceIndexOf? text count = some (sourceIndex? text count) := by
  intro request
  have hfields : ∀ field ∈ request.fields,
      Utf8.isValid field = true ∧ ∃ line ∈ logicalLines (headOf data), field <:+: line := by
    intro field hfield
    obtain ⟨line, hline, span, hmarks⟩ := Http.Request.exists_marks_of_mem_fields hvalid hfield
    exact ⟨hmarks.isValid, line, hline, hmarks.isInfix⟩
  refine ⟨?_, Http.Request.read?_eq data, hfields, ?_, ?_⟩
  · obtain ⟨line, headers, hlines, hall⟩ := Http.exists_logicalLines_eq_cons hvalid
    rw [hlines]
    exact fun member hmember => Http.isReadByPlaces (hall member hmember)
  · -- The value that holds the token is one of the fields.
    refine fun secret => Http.BasicAuth.permits?_eq secret fun value hvalue => ?_
    refine (hfields value ?_).1
    simp [Http.Request.fields, Option.mem_def.mp hvalue]
  · -- The path is one of the fields, and what stands behind the start of it is a text.
    intro start hstart text count htext
    have hpath : Utf8.isValid request.path = true :=
      (hfields request.path (by simp [Http.Request.fields])).1
    have hstart : Utf8.isValid start = true := by
      simp only [List.mem_cons, List.not_mem_nil, or_false] at hstart
      rcases hstart with rfl | rfl <;> exact Utf8.isValid_ofString _
    rw [Bytes.after?_eq_some_iff.mp htext, Utf8.isValid_append_iff hstart] at hpath
    exact sourceIndexOf?_eq hpath count

section Accented

/-- A request with longer characters next to all places where it is cut: behind the digits and the
`?`, at both ends of the version, at the fold and around the token. A half character follows it. -/
def accentedData : Bytes :=
  Bytes.ofString ("GET /stream/+0é?ü=1\u2003 HTTP/é1.1é \x0d\n\tö\x0d\nHost: ï\x0d\n" ++
    "Authorization: bAsIc\té\x0d\n\x0d\n") ++ [195]

/-- The first line of the request, in one piece. -/
def accentedLine : Bytes := .ofString "GET /stream/+0é?ü=1\u2003 HTTP/é1.1é ö"

/-- The request is read by places, the right token is found in it and so is the source. -/
theorem no_character_cut_accented :
    let request := Http.Request.parse accentedData
    let version := Bytes.ofString "é1.1é ö"
    (Utf8.isValid (headOf accentedData) = true ∧
      accentedLine ∈ logicalLines (headOf accentedData) ∧ version ∈ request.fields ∧
      streamPaths.after? request.path = some (.ofString "+0é")) ∧
    Http.IsReadByPlaces accentedLine ∧ Http.Request.read? accentedData = some request ∧
    (Utf8.isValid version = true ∧ ∃ line ∈ logicalLines (headOf accentedData), version <:+: line) ∧
    Http.BasicAuth.permits? (some (.ofString "é")) request.authorization = some true ∧
    sourceIndexOf? (.ofString "+0é") 1 = some (some 0) := by
  intro request version
  have hvalid : Utf8.isValid (headOf accentedData) = true := by decide +kernel
  have hline : accentedLine ∈ logicalLines (headOf accentedData) := by decide +kernel
  have hversion : version ∈ request.fields := by decide +kernel
  have hsource : streamPaths.after? request.path = some (.ofString "+0é") := by decide +kernel
  have hpermits : Http.BasicAuth.permits (some (.ofString "é")) request.authorization = true := by
    decide +kernel
  have hindex : sourceIndex? (.ofString "+0é") 1 = some 0 := by decide +kernel
  obtain ⟨hlines, hread, hfields, htoken, hnumber⟩ := no_character_cut hvalid
  refine ⟨⟨hvalid, hline, hversion, hsource⟩, hlines _ hline, hread, hfields _ hversion, ?_, ?_⟩
  · rw [htoken, hpermits]
  · rw [hnumber streamPaths List.mem_cons_self _ 1 hsource, hindex]

end Accented

end Router

end MotionJpeg
