import MotionJpeg.Proofs.Bytes.Spans
import MotionJpeg.Proofs.Http.Folding

/-!
# Requests by places

A request is read once more, as one does who has each line as one text: the parts are looked for
byte by byte, and what stands between two places is cut out of the line as a text. A line is a text
if the head is one, and all places lie next to an ASCII byte or at the end of a line. So nothing is
asked for that is not there, no character is cut, and the request is the same.

* `exists_logicalLines_eq_cons`: the lines of a text are texts.
* `RequestLine.Spans` are the parts of a first line by their places, `headerSpan?` is the place of
  the value of a header.
* `RequestLine.Spans.exists_ofLine?` and `exists_headerSpan?`: these places are found in every line.
* `Request.read?_eq`: all that is cut out by them is what a request is read with.
-/

namespace MotionJpeg.Http

section Lines

/-- Lines are texts exactly if they are one together, with the line ends between them. -/
theorem isValid_joinLines_iff {line : Bytes} {lines : List Bytes} :
    Utf8.isValid (Bytes.joinLines line lines) = true ↔
      ∀ member ∈ line :: lines, Utf8.isValid member = true := by
  induction lines generalizing line with
  | nil => rw [Bytes.joinLines_nil, List.forall_mem_singleton]
  | cons next lines ih =>
    rw [Bytes.joinLines_cons, Utf8.isValid_append_cons_iff (by decide),
      Utf8.isValid_cons_iff (by decide), ih, List.forall_mem_cons (a := line)]

/-- Texts that are put together are texts, without the blanks that continuations begin with. -/
theorem isValid_mergeContinuations {lines : List Bytes}
    (h : ∀ line ∈ lines, Utf8.isValid line = true) :
    Utf8.isValid (mergeContinuations lines).1 = true ∧
      ∀ line ∈ (mergeContinuations lines).2, Utf8.isValid line = true := by
  induction lines with
  | nil => exact ⟨rfl, List.forall_mem_nil _⟩
  | cons line lines ih =>
    rw [List.forall_mem_cons] at h
    obtain ⟨hcontinuation, hlines⟩ := ih h.2
    rw [mergeContinuations]
    dsimp only
    split
    · -- The blanks are ASCII, so without them the continuation is still a text.
      have hline := Utf8.isValid_dropWhile (fun _ => Ascii.lt_of_isSpaceOrTab) h.1
      exact ⟨Utf8.isValid_append hline hcontinuation, hlines⟩
    · exact ⟨rfl, List.forall_mem_cons.mpr ⟨Utf8.isValid_append h.1 hcontinuation, hlines⟩⟩

/-- There is a first line, and the lines of a text are texts. -/
theorem exists_logicalLines_eq_cons {head : Bytes} (hhead : Utf8.isValid head = true) :
    ∃ line headers, logicalLines head = line :: headers ∧
      ∀ member ∈ line :: headers, Utf8.isValid member = true := by
  -- The first of the raw lines is never a continuation, as there is none before it.
  obtain ⟨first, lines, rfl, huncut⟩ := Bytes.exists_eq_joinLines head
  rw [isValid_joinLines_iff, List.forall_mem_cons] at hhead
  obtain ⟨hcontinuation, hheaders⟩ := isValid_mergeContinuations hhead.2
  exact ⟨_, _, logicalLines_of_crlfLines (Bytes.crlfLines_joinLines_of_isUncut huncut),
    List.forall_mem_cons.mpr ⟨Utf8.isValid_append hhead.1 hcontinuation, hheaders⟩⟩

end Lines

section Marked

variable {line : Bytes} {span : Option Span} {value : Option Bytes}

/-- What stands between two places is cut out of a text, if there are places. -/
theorem mapM_text?_eq (hline : Utf8.isValid line = true)
    (h : Option.Rel (fun span value => span.Marks line value) span value) :
    span.mapM (·.text? line) = some value := by
  cases h with
  | none => rfl
  | some hmarks =>
    rw [Option.mapM_some, hmarks.text?_eq hline]
    rfl

/-- What is there has places. -/
theorem exists_marks_of_rel {field : Bytes}
    (h : Option.Rel (fun span value => span.Marks line value) span value)
    (hfield : value = some field) : ∃ span : Span, span.Marks line field := by
  subst hfield
  cases h with
  | some hmarks => exact ⟨_, hmarks⟩

end Marked

namespace RequestLine

variable {c : UInt8}

theorem lt_of_isTokenByte (h : isTokenByte c = false) : c < 0x80 :=
  Ascii.lt_of_isSpaceOrTab (by simpa [isTokenByte] using h)

theorem lt_of_isPathByte (h : isPathByte c = false) : c < 0x80 := by
  rw [isPathByte, Bool.and_eq_false_iff] at h
  rcases h with htoken | hmark
  · exact lt_of_isTokenByte htoken
  · obtain rfl : c = questionMark := by simpa using hmark
    decide

theorem lt_of_eq_slash (h : (c != slash) = false) : c < 0x80 := by
  obtain rfl : c = slash := by simpa using h
  decide

/-- The parts of a request line by their places. -/
structure Spans where
  method : Span := ⟨0, 0⟩
  path : Span := ⟨0, 0⟩
  query : Span := ⟨0, 0⟩
  protocol : Span := ⟨0, 0⟩
  version : Option Span := none
  deriving DecidableEq, Repr

namespace Spans

/-- Completes a line from `place` on, where its target ends. -/
def withProtocol? (spans : Spans) (line : Bytes) (place : Nat) : Option Spans := do
  let rest ← Span.skip? Ascii.isSpaceOrTab line ⟨place, line.length⟩
  match ← rest.end? (· != slash) line with
  | some place =>
    let version ← Span.trim? ⟨place + 1, line.length⟩ line
    return { spans with protocol := ⟨rest.start, place⟩, version := some version }
  | none =>
    let protocol ← rest.trim? line
    return { spans with protocol }

/-- Completes a line from `place` on, where its path has ended in a `?`. -/
def withQuery? (spans : Spans) (line : Bytes) (place : Nat) : Option Spans := do
  let rest ← Span.skip? Ascii.isSpaceOrTab line ⟨place, line.length⟩
  match ← rest.end? isTokenByte line with
  | some place => withProtocol? { spans with query := ⟨rest.start, place⟩ } line place
  | none => return { spans with query := rest }

/-- Completes a line from `place` on, where its method ends. -/
def withTarget? (spans : Spans) (text : Bytes) (place : Nat) : Option Spans := do
  let rest ← Span.skip? Ascii.isSpaceOrTab text ⟨place, text.length⟩
  match ← rest.end? isPathByte text with
  | some place =>
    let spans := { spans with path := ⟨rest.start, place⟩ }
    if (← text[place]?) = questionMark then spans.withQuery? text (place + 1)
    else spans.withProtocol? text place
  | none => return { spans with path := rest }

/-- The places of the parts of a line. It fails if it asks for bytes that are not there. -/
def ofLine? (line : Bytes) : Option Spans := do
  match ← Span.end? isTokenByte line ⟨0, line.length⟩ with
  | some place => withTarget? { method := ⟨0, place⟩ } line place
  | none => return { method := ⟨0, line.length⟩ }

/-- The parts as they are cut out of their line. It fails if a part does not lie in the line or cuts
a character of it. -/
def parts? (spans : Spans) (line : Bytes) : Option RequestLine := do
  let method ← spans.method.text? line
  let path ← spans.path.text? line
  let query ← spans.query.text? line
  let protocol ← spans.protocol.text? line
  let version ← spans.version.mapM (·.text? line)
  return { method, path, query, protocol, version }

/-- All places lie in the line and cut no character, and these are the parts between them. -/
structure Marks (spans : Spans) (line : Bytes) (parts : RequestLine) : Prop where
  method : spans.method.Marks line parts.method
  path : spans.path.Marks line parts.path
  query : spans.query.Marks line parts.query
  protocol : spans.protocol.Marks line parts.protocol
  version : Option.Rel (fun span version => span.Marks line version) spans.version parts.version

variable {spans : Spans} {line rest : Bytes} {parts : RequestLine} {place : Nat}

/-- A line of which only the method is known. -/
theorem marks_method {span : Span} {method : Bytes} (h : span.Marks line method) :
    Marks { method := span } line { method } :=
  ⟨h, .nothing line, .nothing line, .nothing line, .none⟩

/-- Marked parts can be cut out of their line. -/
theorem Marks.parts?_eq (hline : Utf8.isValid line = true) (h : spans.Marks line parts) :
    spans.parts? line = some parts := by
  rw [parts?, h.method.text?_eq hline, h.path.text?_eq hline, h.query.text?_eq hline,
    h.protocol.text?_eq hline, mapM_text?_eq hline h.version]
  rfl

section Completion

variable (h : spans.Marks line parts) (hrest : Span.Marks ⟨place, line.length⟩ line rest)

include h hrest

theorem Marks.exists_withProtocol? : ∃ completed, spans.withProtocol? line place = some completed ∧
    completed.Marks line (parts.withProtocol rest) := by
  obtain ⟨start, hskip, hstart⟩ := hrest.exists_skip? fun _ => Ascii.lt_of_isSpaceOrTab
  simp only [withProtocol?, hskip, RequestLine.withProtocol, Option.bind_eq_bind, Option.bind_some]
  rcases hstart.end?_cases fun _ => lt_of_eq_slash with
    ⟨hend, hnil, -⟩ | ⟨place, c, version, hend, hat⟩
  · obtain ⟨protocol, htrim, hprotocol⟩ := hstart.exists_trim?
    simp only [hend, hnil, htrim, Option.bind_some]
    exact ⟨_, rfl, { h with protocol := hprotocol }⟩
  · obtain ⟨version, htrim, hversion⟩ := hat.marks_rest.exists_trim?
    simp only [hend, hat.dropWhile_eq, htrim, Option.bind_some]
    exact ⟨_, rfl, { h with protocol := hat.marks_front, version := .some hversion }⟩

theorem Marks.exists_withQuery? : ∃ completed, spans.withQuery? line place = some completed ∧
    completed.Marks line (parts.withQuery rest) := by
  obtain ⟨start, hskip, hstart⟩ := hrest.exists_skip? fun _ => Ascii.lt_of_isSpaceOrTab
  simp only [withQuery?, hskip, RequestLine.withQuery, Option.bind_eq_bind, Option.bind_some]
  rcases hstart.end?_cases fun _ => lt_of_isTokenByte with
    ⟨hend, hnil, hall⟩ | ⟨place, c, rest, hend, hat⟩
  · simp only [hend, hnil, hall, Option.bind_some]
    exact ⟨_, rfl, { h with query := hstart }⟩
  · simp only [hend, hat.dropWhile_eq, Option.bind_some]
    exact exists_withProtocol? { h with query := hat.marks_front } hat.marks_back

theorem Marks.exists_withTarget? : ∃ completed, spans.withTarget? line place = some completed ∧
    completed.Marks line (parts.withTarget rest) := by
  obtain ⟨start, hskip, hstart⟩ := hrest.exists_skip? fun _ => Ascii.lt_of_isSpaceOrTab
  simp only [withTarget?, hskip, RequestLine.withTarget, Option.bind_eq_bind, Option.bind_some]
  rcases hstart.end?_cases fun _ => lt_of_isPathByte with
    ⟨hend, hnil, hall⟩ | ⟨place, c, rest, hend, hat⟩
  · simp only [hend, hnil, hall, Option.bind_some]
    exact ⟨_, rfl, { h with path := hstart }⟩
  · simp only [hend, hat.dropWhile_eq, hat.getElem?_eq, Option.bind_some]
    -- A `?` is passed over, while a blank stays in front of what is read next.
    by_cases hmark : c = questionMark
    · rw [if_pos hmark, if_pos hmark]
      exact exists_withQuery? { h with path := hat.marks_front } hat.marks_rest
    · rw [if_neg hmark, if_neg hmark]
      exact exists_withProtocol? { h with path := hat.marks_front } hat.marks_back

end Completion

/-- The places of the parts are found in every line. -/
theorem exists_ofLine? (hline : Utf8.isValid line = true) :
    ∃ spans, ofLine? line = some spans ∧ spans.Marks line (RequestLine.parse line) := by
  have hwhole := Span.Marks.whole hline
  rw [ofLine?, RequestLine.parse]
  rcases hwhole.end?_cases fun _ => lt_of_isTokenByte with
    ⟨hend, hnil, hall⟩ | ⟨place, c, rest, hend, hat⟩
  · refine ⟨_, by rw [hend]; rfl, ?_⟩
    simp only [hnil, hall]
    exact marks_method hwhole
  · rw [hend, Option.bind_eq_bind, Option.bind_some]
    simp only [hat.dropWhile_eq]
    exact (marks_method hat.marks_front).exists_withTarget? hat.marks_back

end Spans

end RequestLine

section Headers

variable {name line : Bytes}

/-- The place of the value on a header line with this name, the colon included. It fails if it asks
for bytes that are not there. -/
def headerSpan? (name line : Bytes) : Option (Option Span) :=
  if name.length ≤ line.length then do
    let front ← Span.bytes? ⟨0, name.length⟩ line
    if Ascii.equalsIgnoreCase front name then
      let value ← Span.trim? ⟨name.length, line.length⟩ line
      return some value
    else return none
  else return none

/-- The value of a header, the one met before or else the one that is cut out of this line. -/
def valueFrom? (name : Bytes) (earlier : Option Bytes) (line : Bytes) : Option (Option Bytes) :=
  match earlier with
  | some _ => return earlier
  | none => do
    let span ← headerSpan? name line
    span.mapM (·.text? line)

/-- The place of the value of a header is found in every line. -/
theorem exists_headerSpan? (hname : Utf8.isValid name = true) (hline : Utf8.isValid line = true) :
    ∃ span, headerSpan? name line = some span ∧
      Option.Rel (fun span value => span.Marks line value) span (headerValue? name line) := by
  rw [headerSpan?, headerValue?]
  by_cases hlength : name.length ≤ line.length
  · rw [if_pos hlength, Span.bytes?_front hlength, Option.bind_eq_bind, Option.bind_some]
    by_cases hequal : Ascii.equalsIgnoreCase (line.take name.length) name = true
    · obtain ⟨value, htrim, hvalue⟩ := (Span.Marks.behind hline hname hequal).exists_trim?
      rw [if_pos hequal, if_pos hequal, htrim]
      exact ⟨some value, rfl, .some hvalue⟩
    · rw [if_neg hequal, if_neg hequal]
      exact ⟨none, rfl, .none⟩
  · -- A line that is too short does not begin with the name either way.
    rw [if_neg hlength, if_neg (mt Ascii.length_le_of_equalsIgnoreCase_take hlength)]
    exact ⟨none, rfl, .none⟩

/-- The value that is cut out of a line is that of its header. -/
theorem valueFrom?_eq (hname : Utf8.isValid name = true) (hline : Utf8.isValid line = true)
    (earlier : Option Bytes) :
    valueFrom? name earlier line = some (earlier.or (headerValue? name line)) := by
  cases earlier with
  | some value => rfl
  | none =>
    obtain ⟨span, hspan, hmarks⟩ := exists_headerSpan? hname hline
    rw [valueFrom?, hspan, Option.bind_eq_bind, Option.bind_some, Option.none_or]
    exact mapM_text?_eq hline hmarks

end Headers

namespace Request

/-- Takes from a line the values of the headers that were not met before. -/
def withHeaders? (request : Request) (line : Bytes) : Option Request := do
  let host ← valueFrom? (.ofString "host:") request.host line
  let authorization ← valueFrom? (.ofString "authorization:") request.authorization line
  return { request with host, authorization }

/-- Reads the lines of a head by places. -/
def readLines? : List Bytes → Option Request
  | [] => return {}
  | line :: headers => do
    let spans ← RequestLine.Spans.ofLine? line
    let parts ← spans.parts? line
    headers.foldlM withHeaders? { parts with }

/-- Cuts out the bytes before the first blank line. -/
def headIn? (data : Bytes) : Option Bytes :=
  match headEnd? data with
  | some place => Span.bytes? ⟨0, place⟩ data
  | none => some data

/-- Reads the head at the front of `data` by places. It fails if it asks for bytes that are not
there or cuts a character. -/
def read? (data : Bytes) : Option Request := do
  let head ← headIn? data
  if Utf8.isValid head then readLines? (logicalLines head) else return {}

/-- What is read of a request, as far as it is there. -/
def fields (request : Request) : List Bytes :=
  [request.method, request.path, request.query, request.protocol] ++ request.version.toList ++
    request.host.toList ++ request.authorization.toList

/-- Line by line the first value of each header is taken. -/
theorem foldlM_withHeaders?_eq {headers : List Bytes}
    (h : ∀ line ∈ headers, Utf8.isValid line = true) (request : Request) :
    headers.foldlM withHeaders? request = some { request with
      host := request.host.or (headers.findSome? (headerValue? (.ofString "host:")))
      authorization := request.authorization.or
        (headers.findSome? (headerValue? (.ofString "authorization:"))) } := by
  induction headers generalizing request with
  | nil => simp
  | cons line headers ih =>
    rw [List.forall_mem_cons] at h
    have hfirst : withHeaders? request line = some { request with
        host := request.host.or (headerValue? (.ofString "host:") line)
        authorization := request.authorization.or
          (headerValue? (.ofString "authorization:") line) } := by
      rw [withHeaders?, valueFrom?_eq (Utf8.isValid_ofString _) h.1,
        valueFrom?_eq (Utf8.isValid_ofString _) h.1]
      rfl
    -- What was met before counts, then this line, then the lines behind it.
    have hor (found : Option Bytes) (name : Bytes) :
        (found.or (headerValue? name line)).or (headers.findSome? (headerValue? name)) =
          found.or ((line :: headers).findSome? (headerValue? name)) := by
      rw [Option.or_assoc, List.findSome?_cons]
      cases headerValue? name line <;> rfl
    rw [List.foldlM_cons, hfirst, Option.bind_eq_bind, Option.bind_some, ih h.2, hor, hor]

/-- Lines that are texts are read by places as they are read. -/
theorem readLines?_eq {line : Bytes} {headers : List Bytes}
    (h : ∀ member ∈ line :: headers, Utf8.isValid member = true) :
    readLines? (line :: headers) = some (ofLines (line :: headers)) := by
  rw [List.forall_mem_cons] at h
  obtain ⟨spans, hspans, hmarks⟩ := RequestLine.Spans.exists_ofLine? h.1
  simp only [readLines?, hspans, hmarks.parts?_eq h.1, Option.bind_eq_bind, Option.bind_some,
    foldlM_withHeaders?_eq h.2]
  rfl

/-- A blank line that is found lies in the data. -/
theorem headIn?_eq (data : Bytes) : headIn? data = some (headOf data) := by
  rw [headIn?, headOf]
  cases hend : headEnd? data with
  | none => rfl
  | some place =>
    have hlength : place ≤ data.length := (Bytes.search?_eq_some_iff.mp hend).1.1
    exact Span.bytes?_front hlength

/-- A request is read by places as it is read. -/
theorem read?_eq (data : Bytes) : read? data = some (parse data) := by
  rw [read?, parse, headIn?_eq, Option.bind_eq_bind, Option.bind_some]
  split
  next hvalid =>
    obtain ⟨line, headers, hlines, hall⟩ := exists_logicalLines_eq_cons hvalid
    rw [hlines]
    exact readLines?_eq hall
  next => rfl

/-- The value of a header stands on one of the lines. -/
theorem exists_marks_of_findSome? {headers : List Bytes} {name value : Bytes}
    (hname : Utf8.isValid name = true) (h : ∀ line ∈ headers, Utf8.isValid line = true)
    (hvalue : headers.findSome? (headerValue? name) = some value) :
    ∃ line ∈ headers, ∃ span : Span, span.Marks line value := by
  obtain ⟨line, hline, hfound⟩ := List.exists_of_findSome?_eq_some hvalue
  obtain ⟨span, -, hmarks⟩ := exists_headerSpan? hname (h line hline)
  exact ⟨line, hline, exists_marks_of_rel hmarks hfound⟩

/-- What is read of a head that is a text stands on one of its lines, in whole characters. -/
theorem exists_marks_of_mem_fields {data field : Bytes}
    (hvalid : Utf8.isValid (headOf data) = true) (hfield : field ∈ (parse data).fields) :
    ∃ line ∈ logicalLines (headOf data), ∃ span : Span, span.Marks line field := by
  obtain ⟨line, headers, hlines, hall⟩ := exists_logicalLines_eq_cons hvalid
  rw [List.forall_mem_cons] at hall
  obtain ⟨spans, -, hmarks⟩ := RequestLine.Spans.exists_ofLine? hall.1
  have hparse : parse data = ofLines (line :: headers) := by
    rw [parse]
    exact (if_pos hvalid).trans (congrArg ofLines hlines)
  have hheader {name : String}
      (hfound : headers.findSome? (headerValue? (.ofString name)) = some field) :
      ∃ header ∈ line :: headers, ∃ span : Span, span.Marks header field := by
    obtain ⟨header, hmem, hspan⟩ :=
      exists_marks_of_findSome? (Utf8.isValid_ofString name) hall.2 hfound
    exact ⟨header, List.mem_cons_of_mem line hmem, hspan⟩
  rw [hlines]
  simp only [hparse, fields, ofLines, List.mem_append, List.mem_cons, List.not_mem_nil, or_false,
    Option.mem_toList] at hfield
  rcases hfield with ((hpart | hversion) | hhost) | hauthorization
  · refine ⟨line, List.mem_cons_self, ?_⟩
    rcases hpart with rfl | rfl | rfl | rfl
    · exact ⟨_, hmarks.method⟩
    · exact ⟨_, hmarks.path⟩
    · exact ⟨_, hmarks.query⟩
    · exact ⟨_, hmarks.protocol⟩
  · exact ⟨line, List.mem_cons_self, exists_marks_of_rel hmarks.version hversion⟩
  · exact hheader hhost
  · exact hheader hauthorization

end Request

end MotionJpeg.Http
