import Mathlib.Data.List.Infix
import MotionJpeg.Http.Reply
import MotionJpeg.Proofs.Bytes.Decimal
import MotionJpeg.Proofs.Http.Lines

/-!
# Responses are read as they were written

A response is written as lines and a body. From its bytes a client gets back where the head ends,
each line, each header with its name and its value, and the body, whatever blank lines the body has.

* `Header.ofLine?` reads a header line, and `receivedValue?` looks for a header in a response.
* `Header.ofLine?_line`: a header is read from its line.
* `ResponseHead.IsWellFormed.headEnd?_withBody`: the first blank line is the one after the head.
* `ResponseHead.IsWellFormed.withBody_inj`: no other head and body have the same bytes.
* `withBody_decodes`: what a client reads of a response, and of the length of a file in it.
-/

namespace MotionJpeg

open Bytes (IsLine joinLines)

namespace Bytes

/-- Lines with an end behind each of them end in a line end. -/
theorem flatMap_crlf_eq (line : Bytes) (lines : List Bytes) :
    (line :: lines).flatMap (· ++ crlf) = joinLines line lines ++ crlf := by
  induction lines generalizing line with
  | nil => simp [joinLines]
  | cons next lines ih => rw [List.flatMap_cons, ih, joinLines_cons]; simp [crlf]

/-- Lines before any text are cut off one by one. -/
theorem crlfLines_flatMap_append {lines : List Bytes} (h : ∀ line ∈ lines, IsLine line)
    (text : Bytes) : crlfLines (lines.flatMap (· ++ crlf) ++ text) = lines ++ crlfLines text := by
  induction lines with
  | nil => rfl
  | cons line lines ih =>
    rw [List.forall_mem_cons] at h
    have hline : crlfLines line = [line] := crlfLines_eq_cons_iff.mpr
      ⟨(joinLines_nil line).symm, List.forall_mem_singleton.mpr h.1.isUncut⟩
    rw [List.flatMap_cons, List.append_assoc, crlfLines_append_crlf, hline, ih h.2]
    rfl

end Bytes

namespace Http

namespace Header

/-- What stands between the name of a header and its value. -/
def separator : Bytes := [58, 32]

/-- The header in a line, which is cut at the first colon with a space behind it. -/
def ofLine? (line : Bytes) : Option Header :=
  (separator.search? line).map fun place =>
    { name := line.take place, value := line.drop (place + separator.length) }

/-- The header can be written: neither part holds a byte of a line end, and the name does not hold
what ends it. -/
structure IsWellFormed (header : Header) : Prop where
  isLine_name : IsLine header.name
  isLine_value : IsLine header.value
  not_isInfix : ¬ separator <:+: header.name

instance : DecidablePred IsWellFormed := fun header =>
  decidable_of_iff (IsLine header.name ∧ IsLine header.value ∧ ¬ separator <:+: header.name)
    ⟨fun ⟨hname, hvalue, hinfix⟩ => ⟨hname, hvalue, hinfix⟩,
      fun ⟨hname, hvalue, hinfix⟩ => ⟨hname, hvalue, hinfix⟩⟩

theorem line_eq (header : Header) : header.line = header.name ++ (separator ++ header.value) := by
  have hseparator : Bytes.ofString ": " = separator := by decide +kernel
  rw [line, hseparator, List.append_assoc]

/-- The first separator in a line is the one behind the name. -/
theorem search?_line {header : Header} (h : ¬ separator <:+: header.name) :
    separator.search? header.line = some header.name.length := by
  rw [line_eq]
  refine Bytes.search?_eq_some_iff.mpr ⟨⟨by simp, ?_⟩, fun j hj hoccurs => ?_⟩
  · rw [List.drop_left]
    exact List.prefix_append _ _
  · by_cases hend : j + separator.length ≤ header.name.length
    · exact h (Bytes.isInfix_iff_exists_occursAt.mpr ⟨j, hoccurs.of_append hend⟩)
    · -- Its space would be the colon behind the name.
      have hlast : j + 1 = header.name.length := by
        rw [separator, List.length_cons, List.length_singleton] at hend
        omega
      have hbyte := hoccurs.2.getElem (i := 1) (by decide)
      simp [List.getElem_drop, hlast, separator] at hbyte

/-- A header is read from its line. -/
theorem ofLine?_line {header : Header} (h : ¬ separator <:+: header.name) :
    ofLine? header.line = some header := by
  rw [ofLine?, search?_line h, Option.map_some, line_eq, List.take_left, ← List.append_assoc,
    ← List.length_append, List.drop_left]

theorem isLine_line {header : Header} (h : header.IsWellFormed) : IsLine header.line := by
  simp only [line_eq, Bytes.isLine_append]
  exact ⟨h.isLine_name, by decide, h.isLine_value⟩

theorem line_ne_nil (header : Header) : header.line ≠ [] := by simp [line_eq, separator]

end Header

namespace ResponseHead

variable {head : ResponseHead}

/-- All headers of a head can be written. -/
def IsWellFormed (head : ResponseHead) : Prop := ∀ header ∈ head.headers, header.IsWellFormed

instance : DecidablePred IsWellFormed := fun head =>
  inferInstanceAs (Decidable (∀ header ∈ head.headers, header.IsWellFormed))

/-- The headers that every response has can be written. -/
theorem isWellFormed_commonHeaders : ∀ header ∈ head.commonHeaders, header.IsWellFormed := by
  simp only [commonHeaders, List.forall_mem_cons]
  refine ⟨?_, ?_, ?_, nofun⟩
  · exact ⟨by decide +kernel, by decide +kernel, by decide +kernel⟩
  · cases head.keepAlive <;> exact ⟨by decide +kernel, by decide +kernel, by decide +kernel⟩
  · exact ⟨by decide +kernel, by decide +kernel, by decide +kernel⟩

theorem isLine_statusLine : IsLine head.statusLine := by
  rw [statusLine]
  cases head.version <;> cases head.status <;> decide +kernel

theorem statusLine_ne_nil : head.statusLine ≠ [] := by
  rw [statusLine]
  cases head.version <;> cases head.status <;> decide +kernel

/-- The lines behind the status line. -/
def headerLines (head : ResponseHead) : List Bytes :=
  (head.commonHeaders ++ head.headers).map Header.line

/-- The text of a head up to its blank line. -/
def text (head : ResponseHead) : Bytes := joinLines head.statusLine head.headerLines

/-- A head is its lines and a blank line. -/
theorem render_eq (head : ResponseHead) : head.render = head.text ++ blankLine := by
  rw [render, lines, Bytes.flatMap_crlf_eq, List.append_assoc]
  rfl

theorem IsWellFormed.forall_mem (h : head.IsWellFormed) :
    ∀ header ∈ head.commonHeaders ++ head.headers, header.IsWellFormed :=
  List.forall_mem_append.mpr ⟨isWellFormed_commonHeaders, h⟩

/-- The lines of a response have no line ends in them, and none of the header lines is empty. -/
theorem IsWellFormed.isLine_headerLines (h : head.IsWellFormed) :
    ∀ line ∈ head.headerLines, IsLine line ∧ line ≠ [] := by
  rw [headerLines, List.forall_mem_map]
  exact fun header hmem => ⟨Header.isLine_line (h.forall_mem header hmem), header.line_ne_nil⟩

/-- The first blank line of a response is the one that ends its head. -/
theorem IsWellFormed.headEnd?_withBody (h : head.IsWellFormed) (body : Bytes) :
    headEnd? (head.withBody body) = some head.text.length := by
  rw [withBody, render_eq]
  exact headEnd?_joinLines isLine_statusLine h.isLine_headerLines body

/-- The lines of a head are those that were written. -/
theorem IsWellFormed.crlfLines_text (h : head.IsWellFormed) :
    head.text.crlfLines = head.statusLine :: head.headerLines := by
  refine Bytes.crlfLines_joinLines (List.forall_mem_cons.mpr ⟨isLine_statusLine, ?_⟩)
  exact fun line hmem => (h.isLine_headerLines line hmem).1

/-- The first line tells version and status. -/
theorem statusLine_inj {other : ResponseHead} (h : head.statusLine = other.statusLine) :
    head.version = other.version ∧ head.status = other.status := by
  -- There are eight status lines, no two of them alike.
  have hversion (version : Version) : version ∈ [Version.http10, .http11] := by
    cases version <;> decide
  have hstatus (status : Status) :
      status ∈ [Status.ok, .badRequest, .notAuthorized, .notFound] := by
    cases status <;> decide
  have hlines : ∀ version ∈ [Version.http10, .http11],
      ∀ status ∈ [Status.ok, .badRequest, .notAuthorized, .notFound],
      ∀ version' ∈ [Version.http10, .http11],
      ∀ status' ∈ [Status.ok, .badRequest, .notAuthorized, .notFound],
        statusLine { version, status } = statusLine { version := version', status := status' } →
          version = version' ∧ status = status' := by
    decide +kernel
  exact hlines _ (hversion _) _ (hstatus _) _ (hversion _) _ (hstatus _) h

/-- The common headers tell whether the connection stays open. -/
theorem commonHeaders_inj {other : ResponseHead} (h : head.commonHeaders = other.commonHeaders) :
    head.keepAlive = other.keepAlive := by
  have hvalue : Bytes.ofString "keep-alive" ≠ Bytes.ofString "close" := by decide +kernel
  simp only [commonHeaders, List.cons.injEq, Header.ofStrings, Header.mk.injEq, true_and,
    and_true] at h
  by_cases hhead : head.keepAlive = true <;> by_cases hother : other.keepAlive = true
  · rw [hhead, hother]
  · rw [if_pos hhead, if_neg hother] at h
    exact absurd h hvalue
  · rw [if_neg hhead, if_pos hother] at h
    exact absurd h.symm hvalue
  · rw [Bool.eq_false_iff.mpr hhead, Bool.eq_false_iff.mpr hother]

/-- The header lines tell the headers. -/
theorem IsWellFormed.filterMap_headerLines (h : head.IsWellFormed) :
    head.headerLines.filterMap Header.ofLine? = head.commonHeaders ++ head.headers := by
  rw [headerLines, List.filterMap_map]
  exact (List.filterMap_congr fun header hmem =>
    Header.ofLine?_line (h.forall_mem header hmem).not_isInfix).trans List.filterMap_some

/-- A response has one head and one body. -/
theorem IsWellFormed.withBody_inj {other : ResponseHead} {body otherBody : Bytes}
    (h : head.IsWellFormed) (hother : other.IsWellFormed)
    (heq : head.withBody body = other.withBody otherBody) : head = other ∧ body = otherBody := by
  -- Both heads end at the first blank line.
  have hlength : head.text.length = other.text.length := by
    have hend := h.headEnd?_withBody body
    rw [heq, hother.headEnd?_withBody] at hend
    exact (Option.some.inj hend).symm
  rw [withBody, withBody, render_eq, render_eq, List.append_assoc, List.append_assoc] at heq
  obtain ⟨htext, hrest⟩ := List.append_inj heq hlength
  refine ⟨?_, List.append_cancel_left hrest⟩
  have hlines := h.crlfLines_text
  rw [htext, hother.crlfLines_text, List.cons.injEq] at hlines
  obtain ⟨hversion, hstatus⟩ := statusLine_inj hlines.1.symm
  have hheaders := h.filterMap_headerLines
  rw [← hlines.2, hother.filterMap_headerLines] at hheaders
  obtain ⟨hcommon, hown⟩ := List.append_inj hheaders.symm rfl
  have hkeepAlive := commonHeaders_inj hcommon
  cases head
  cases other
  rw [ResponseHead.mk.injEq]
  exact ⟨hversion, hstatus, hkeepAlive, hown⟩

end ResponseHead

/-- The headers in a response that was received. -/
def receivedHeaders (response : Bytes) : List Header :=
  (headOf response).crlfLines.tail.filterMap Header.ofLine?

/-- The value of the first header with this name in a response that was received. -/
def receivedValue? (name response : Bytes) : Option Bytes :=
  ((receivedHeaders response).find? fun header => header.name == name).map Header.value

/-- Lines that are not empty are no part of a blank line, unless a line end follows. -/
theorem headEnd?_flatMap_append {lines : List Bytes} (h : ∀ line ∈ lines, IsLine line ∧ line ≠ [])
    {rest : Bytes} (hrest : rest.head? ≠ some 13) :
    headEnd? (lines.flatMap (· ++ Bytes.crlf) ++ rest) =
      (headEnd? rest).map ((lines.flatMap (· ++ Bytes.crlf)).length + ·) := by
  induction lines with
  | nil => simp
  | cons line lines ih =>
    rw [List.forall_mem_cons] at h
    have hhead : (lines.flatMap (· ++ Bytes.crlf) ++ rest).head? ≠ some 13 := by
      cases lines with
      | nil => exact hrest
      | cons next lines =>
        obtain ⟨hnext, hne⟩ := h.2 next List.mem_cons_self
        rw [List.flatMap_cons, List.append_assoc, List.append_assoc]
        exact head?_line_append_ne hnext hne _
    have hcut : (line :: lines).flatMap (· ++ Bytes.crlf) ++ rest =
        line ++ 13 :: 10 :: (lines.flatMap (· ++ Bytes.crlf) ++ rest) := by
      simp [Bytes.crlf]
    have hlength : ((line :: lines).flatMap (· ++ Bytes.crlf)).length =
        line.length + 2 + (lines.flatMap (· ++ Bytes.crlf)).length := by
      rw [List.flatMap_cons, List.length_append, List.length_append]
      rfl
    rw [hcut, headEnd?_line_append h.1.1 hhead, ih h.2, Bytes.map_add_map, hlength]

/-- In front of a line that may hold anything, the lines of a head are read. -/
theorem crlfLines_headOf_append {lines : List Bytes} (h : ∀ line ∈ lines, IsLine line ∧ line ≠ [])
    {rest : Bytes} (hrest : rest.head? ≠ some 13) (hend : headEnd? rest ≠ none) :
    ∃ others, (headOf (lines.flatMap (· ++ Bytes.crlf) ++ rest)).crlfLines = lines ++ others := by
  obtain ⟨place, hplace⟩ := Option.ne_none_iff_exists'.mp hend
  refine ⟨Bytes.crlfLines (rest.take place), ?_⟩
  rw [headOf, headEnd?_flatMap_append h hrest, hplace, Option.map_some]
  dsimp only
  rw [List.take_length_add_append,
    Bytes.crlfLines_flatMap_append fun line hmem => (h line hmem).1]

namespace ResponseHead

/-- In front of a line that may hold anything, the headers of a head are read. -/
theorem IsWellFormed.receivedHeaders_append {head : ResponseHead} (h : head.IsWellFormed)
    {rest : Bytes} (hrest : rest.head? ≠ some 13) (hend : headEnd? rest ≠ none) :
    ∃ others, receivedHeaders
        ((head.statusLine :: head.headerLines).flatMap (· ++ Bytes.crlf) ++ rest) =
      head.commonHeaders ++ head.headers ++ others := by
  have hlines : ∀ line ∈ head.statusLine :: head.headerLines, IsLine line ∧ line ≠ [] :=
    List.forall_mem_cons.mpr ⟨⟨isLine_statusLine, statusLine_ne_nil⟩, h.isLine_headerLines⟩
  obtain ⟨others, hothers⟩ := crlfLines_headOf_append hlines hrest hend
  refine ⟨others.filterMap Header.ofLine?, ?_⟩
  rw [receivedHeaders, hothers, List.cons_append, List.tail_cons, List.filterMap_append,
    h.filterMap_headerLines]

end ResponseHead

namespace Reply

/-- The header that tells the length of a file. -/
def lengthHeader (length : Nat) : Header := ⟨.ofString "Content-Length", .ofNat length⟩

theorem isWellFormed_lengthHeader (length : Nat) : (lengthHeader length).IsWellFormed where
  isLine_name := by
    have hname : IsLine (Bytes.ofString "Content-Length") := by decide +kernel
    exact hname
  isLine_value := by
    have hdigit := (Bytes.isDecimal_ofNat length).isDigit
    exact ⟨fun hmem => absurd (hdigit 13 hmem) (by decide),
      fun hmem => absurd (hdigit 10 hmem) (by decide)⟩
  not_isInfix := by
    have hname : ¬ Header.separator <:+: Bytes.ofString "Content-Length" := by decide +kernel
    exact hname

/-- The head of a file is the lines up to its length, the line of its type, which may hold anything,
and a blank line. -/
theorem fileHeader_append (length : Nat) (mediaType : String) (body : Bytes) :
    ∃ head : ResponseHead, head.headers = [lengthHeader length] ∧
      fileHeader length mediaType ++ body =
        (head.statusLine :: head.headerLines).flatMap (· ++ Bytes.crlf) ++
          ((Header.ofStrings "Content-Type" mediaType).line ++ (blankLine ++ body)) := by
  refine ⟨{ version := .http11
            status := .ok
            keepAlive := true
            headers := [lengthHeader length] }, rfl, ?_⟩
  simp only [fileHeader, ResponseHead.render, ResponseHead.lines, ResponseHead.headerLines,
    ResponseHead.commonHeaders, ResponseHead.statusLine, lengthHeader, List.map_cons,
    List.map_nil, List.flatMap_cons, List.flatMap_nil,
    List.cons_append, List.nil_append, List.append_assoc, List.append_nil]
  rfl

/-- Whatever stands in the header behind it, the length of a file is read from its response. -/
theorem receivedValue?_fileHeader (length : Nat) (mediaType : String) (body : Bytes) :
    receivedValue? (.ofString "Content-Length") (fileHeader length mediaType ++ body) =
      some (.ofNat length) := by
  -- The type may hold line ends or a blank line, so only the lines in front of it are known.
  obtain ⟨head, hheaders, heq⟩ := fileHeader_append length mediaType body
  have hhead : head.IsWellFormed := by
    rw [ResponseHead.IsWellFormed, hheaders]
    exact List.forall_mem_singleton.mpr (isWellFormed_lengthHeader length)
  let rest := (Header.ofStrings "Content-Type" mediaType).line ++ (blankLine ++ body)
  have hrest : rest.head? ≠ some 13 := by
    have hname : (Bytes.ofString "Content-Type").head? = some 67 := by decide +kernel
    simp [rest, Header.line_eq, Header.ofStrings, List.head?_append, hname]
  have hend : headEnd? rest ≠ none := by
    intro hnone
    refine Bytes.search?_eq_none_iff.mp hnone
      (Header.ofStrings "Content-Type" mediaType).line.length ⟨by simp [rest], ?_⟩
    rw [List.drop_left]
    exact List.prefix_append blankLine body
  obtain ⟨others, hothers⟩ := hhead.receivedHeaders_append hrest hend
  have hserver : Bytes.ofString "Server" ≠ Bytes.ofString "Content-Length" := by decide +kernel
  have hconnection : Bytes.ofString "Connection" ≠ Bytes.ofString "Content-Length" := by
    decide +kernel
  have horigin : Bytes.ofString "Access-Control-Allow-Origin" ≠
      Bytes.ofString "Content-Length" := by decide +kernel
  rw [receivedValue?, heq, hothers, hheaders]
  simp [ResponseHead.commonHeaders, Header.ofStrings, lengthHeader, hserver, hconnection, horigin]

end Reply

/-- What a client finds in the bytes of a response with this head and this body. -/
structure IsReadAs (response : Bytes) (head : ResponseHead) (body : Bytes) : Prop where
  /-- The first blank line is the last thing in the head. -/
  headEnd?_eq : headEnd? response = some (head.render.length - blankLine.length)
  length_le : blankLine.length ≤ head.render.length
  /-- The bytes up to the end of the blank line are the head, and the body is the rest. -/
  take_eq : ∀ e, headEnd? response = some e → response.take (e + blankLine.length) = head.render
  drop_eq : ∀ e, headEnd? response = some e → response.drop (e + blankLine.length) = body
  /-- The lines before the blank line are those of the head, in order. -/
  crlfLines_eq : (headOf response).crlfLines =
    head.statusLine :: .ofString "Server: hawkeye" ::
      .ofString (if head.keepAlive then "Connection: keep-alive" else "Connection: close") ::
      .ofString "Access-Control-Allow-Origin: *" :: head.headers.map Header.line
  /-- Each line of a header, cut at its first separator, gives its name and its value. -/
  ofLine?_eq : ∀ header ∈ head.headers, Header.ofLine? header.line = some header
  /-- There is no other way to read the response. -/
  eq_of_withBody_eq : ∀ (other : ResponseHead) (otherBody : Bytes), other.IsWellFormed →
    other.withBody otherBody = response → other = head ∧ otherBody = body

namespace ResponseHead

/-- The lines that every response has behind its status line. -/
theorem headerLines_eq (head : ResponseHead) : head.headerLines =
    .ofString "Server: hawkeye" ::
      .ofString (if head.keepAlive then "Connection: keep-alive" else "Connection: close") ::
      .ofString "Access-Control-Allow-Origin: *" :: head.headers.map Header.line := by
  have hserver : (Header.ofStrings "Server" serverName).line = .ofString "Server: hawkeye" := by
    decide +kernel
  have hconnection : (Header.ofStrings "Connection"
      (if head.keepAlive then "keep-alive" else "close")).line =
      .ofString (if head.keepAlive then "Connection: keep-alive" else "Connection: close") := by
    cases head.keepAlive <;> decide +kernel
  have horigin : (Header.ofStrings "Access-Control-Allow-Origin" "*").line =
      .ofString "Access-Control-Allow-Origin: *" := by decide +kernel
  rw [headerLines, commonHeaders, List.map_append]
  simp only [List.map_cons, List.map_nil, hserver, hconnection, horigin]
  rfl

/-- A response is read as it was written. -/
theorem IsWellFormed.isReadAs {head : ResponseHead} (h : head.IsWellFormed) (body : Bytes) :
    IsReadAs (head.withBody body) head body := by
  have hlength : head.render.length = head.text.length + blankLine.length := by
    rw [render_eq, List.length_append]
  have hend := h.headEnd?_withBody body
  have hplace {e : Nat} (he : headEnd? (head.withBody body) = some e) :
      e + blankLine.length = head.render.length := by
    rw [hlength, Option.some.inj (he.symm.trans hend)]
  have hhead : headOf (head.withBody body) = head.text := by
    rw [headOf, hend, withBody, render_eq, List.append_assoc]
    exact List.take_left
  constructor
  case headEnd?_eq => rw [hend, hlength, Nat.add_sub_cancel]
  case length_le => omega
  case take_eq => exact fun e he => by rw [hplace he, withBody, List.take_left]
  case drop_eq => exact fun e he => by rw [hplace he, withBody, List.drop_left]
  case crlfLines_eq => rw [hhead, h.crlfLines_text, headerLines_eq]
  case ofLine?_eq => exact fun header hmem => Header.ofLine?_line (h header hmem).not_isInfix
  case eq_of_withBody_eq => exact fun other otherBody hother heq => hother.withBody_inj h heq

end ResponseHead

/-- Responses decode uniquely, also those with a blank line in the body, and the length in the
response for a file is the decimal of the length of the file. -/
theorem withBody_decodes :
    (∀ (head : ResponseHead) (body : Bytes), head.IsWellFormed →
      IsReadAs (head.withBody body) head body) ∧
    ∀ (length : Nat) (mediaType : String) (body : Bytes),
      receivedValue? (.ofString "Content-Length") (Reply.fileHeader length mediaType ++ body) =
        some (.ofNat length) ∧
      Bytes.IsDecimal (.ofNat length) length :=
  ⟨fun _ body h => h.isReadAs body, fun length mediaType body =>
    ⟨Reply.receivedValue?_fileHeader length mediaType body, Bytes.isDecimal_ofNat length⟩⟩

/-- Names that end in a colon, an empty name, empty values, a separator in a value, the same header
twice, and a body of blank lines. -/
theorem withBody_decodes_colons :
    let head : ResponseHead :=
      { version := .http10
        status := .notFound
        headers := [⟨.ofString "A:", []⟩, ⟨[], .ofString ": "⟩, ⟨.ofString "A:", []⟩] }
    head.IsWellFormed ∧ IsReadAs (head.withBody (blankLine ++ blankLine)) head
      (blankLine ++ blankLine) := by
  intro head
  have h : head.IsWellFormed := by decide +kernel
  exact ⟨h, withBody_decodes.1 head (blankLine ++ blankLine) h⟩

end Http

end MotionJpeg
