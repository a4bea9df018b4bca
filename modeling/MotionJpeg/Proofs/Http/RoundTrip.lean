import MotionJpeg.Proofs.Http.HeaderValue

/-!
# Requests are read as they were written

A request with a first line and any headers is written as a head. The parser gets back each of its
parts, whatever the headers are, in whatever order and letters they stand, and whatever follows the
blank line.

* `RequestText` is a request before it is written, `RequestText.bytes` is its head.
* `RequestText.request` is what the parser is to read.
* `RequestText.IsWellFormed.parse_firstLine`: the first line is cut into its parts.
* `RequestText.parse_bytes`: the whole head is read back, and its end is found.
-/

namespace MotionJpeg.Http

/-- A request as it is to be written. -/
structure RequestText where
  method : Bytes
  path : Bytes
  query : Option Bytes
  protocol : Bytes
  version : Bytes
  headers : List HeaderLine

namespace RequestText

variable (text : RequestText)

/-- The path, with `?` and the query if there is one. -/
def target : Bytes :=
  match text.query with
  | none => text.path
  | some query => text.path ++ RequestLine.questionMark :: query

/-- The first line, its parts apart by one space. -/
def firstLine : Bytes :=
  text.method ++ 32 :: (text.target ++ 32 :: (text.protocol ++ RequestLine.slash :: text.version))

/-- The head, up to the blank line. -/
def bytes : Bytes := Bytes.joinLines text.firstLine (text.headers.map HeaderLine.bytes)

/-- The value of the first line with a header. -/
def value? (header : HeaderName) : Option Bytes := text.headers.findSome? (·.value? header)

/-- What is to be read of the head. -/
def request : Request where
  method := text.method
  path := text.path
  query := text.query.getD []
  protocol := text.protocol
  version := some text.version
  host := text.value? .host
  authorization := text.value? .authorization

/-- No part holds a byte that ends it, and the head is a text. -/
structure IsWellFormed (text : RequestText) : Prop where
  method : IsToken text.method
  path : IsToken text.path
  path_ne_nil : text.path ≠ []
  questionMark_not_mem : RequestLine.questionMark ∉ text.path
  query : ∀ query ∈ text.query, IsToken query
  query_ne_nil : ∀ query ∈ text.query, query ≠ []
  protocol : IsToken text.protocol
  slash_not_mem : RequestLine.slash ∉ text.protocol
  version : IsToken text.version
  headers : ∀ header ∈ text.headers, header.IsWellFormed
  isText : ∃ string, text.bytes = .ofString string

end RequestText

section Tokens

variable {p : UInt8 → Bool} {token rest : Bytes} {c : UInt8}

/-- A token is taken up to the byte after it. -/
theorem takeWhile_append_cons (htoken : ∀ a ∈ token, p a = true) (hc : p c = false) :
    (token ++ c :: rest).takeWhile p = token := by
  rw [List.takeWhile_append_of_pos htoken, List.takeWhile_cons_of_neg (by simp [hc]),
    List.append_nil]

/-- What follows a token begins with the byte after it. -/
theorem dropWhile_append_cons (htoken : ∀ a ∈ token, p a = true) (hc : p c = false) :
    (token ++ c :: rest).dropWhile p = c :: rest := by
  rw [List.dropWhile_append_of_pos htoken, List.dropWhile_cons_of_neg (by simp [hc])]

theorem IsToken.isTokenByte (h : IsToken token) : ∀ c ∈ token, RequestLine.isTokenByte c = true :=
  fun c hc => by simp [RequestLine.isTokenByte, Ascii.isSpaceOrTab_of_not_isBlank (h c hc)]

/-- There is nothing to skip before a token. -/
theorem IsToken.dropWhile_append (h : IsToken token) (hne : token ≠ []) (rest : Bytes) :
    (token ++ rest).dropWhile Ascii.isSpaceOrTab = token ++ rest := by
  obtain ⟨c, token, rfl⟩ := List.exists_cons_of_ne_nil hne
  have hc := Ascii.isSpaceOrTab_of_not_isBlank (h c List.mem_cons_self)
  exact List.dropWhile_cons_of_neg (by simp [hc])

/-- A space before a token is skipped, and no more. -/
theorem IsToken.dropWhile_space (h : IsToken token) (hne : token ≠ []) (rest : Bytes) :
    (32 :: (token ++ rest)).dropWhile Ascii.isSpaceOrTab = token ++ rest := by
  rw [List.dropWhile_cons_of_pos (by decide), h.dropWhile_append hne]

/-- A token has no blanks to trim. -/
theorem IsToken.trimBlanks_eq (h : IsToken token) : Ascii.trimBlanks token = token := by
  have htrim : Ascii.trimBlanks ([] ++ token ++ []) = token :=
    Ascii.trimBlanks_padded (by simp) (by simp) (fun c hc => h c (List.mem_of_mem_head? hc))
      (fun c hc => h c (List.mem_of_getLast? hc))
  rwa [List.nil_append, List.append_nil] at htrim

end Tokens

namespace RequestLine

variable (line : RequestLine)

/-- Protocol and version are told apart by the slash. -/
theorem withProtocol_eq {protocol version : Bytes} (hprotocol : IsToken protocol)
    (hslash : slash ∉ protocol) (hversion : IsToken version) :
    line.withProtocol (32 :: (protocol ++ slash :: version)) =
      { line with protocol, version := some version } := by
  have hskip : (32 :: (protocol ++ slash :: version)).dropWhile Ascii.isSpaceOrTab =
      protocol ++ slash :: version := by
    by_cases hne : protocol = []
    · rw [hne]
      rfl
    · exact hprotocol.dropWhile_space hne _
  have hbytes : ∀ c ∈ protocol, (c != slash) = true := fun c hc =>
    bne_iff_ne.mpr fun heq => hslash (heq ▸ hc)
  rw [withProtocol, hskip]
  simp only [takeWhile_append_cons hbytes (bne_self_eq_false slash),
    dropWhile_append_cons hbytes (bne_self_eq_false slash), hversion.trimBlanks_eq]

end RequestLine

namespace RequestText.IsWellFormed

variable {text : RequestText} (h : text.IsWellFormed)

include h

/-- The first line is cut into its parts. -/
theorem parse_firstLine : RequestLine.parse text.firstLine =
    { method := text.method
      path := text.path
      query := text.query.getD []
      protocol := text.protocol
      version := some text.version } := by
  have hspace : RequestLine.isTokenByte 32 = false := by decide
  have hpath : ∀ c ∈ text.path, RequestLine.isPathByte c = true := fun c hc => by
    have hne : c ≠ RequestLine.questionMark := fun heq => h.questionMark_not_mem (heq ▸ hc)
    simp [RequestLine.isPathByte, h.path.isTokenByte c hc, hne]
  -- The method ends at the first space, and the path at the next one or at the question mark.
  rw [RequestLine.parse, RequestText.firstLine, takeWhile_append_cons h.method.isTokenByte hspace,
    dropWhile_append_cons h.method.isTokenByte hspace]
  dsimp only
  cases hquery : text.query with
  | none =>
    have hend : RequestLine.isPathByte 32 = false := by decide
    simp only [RequestText.target, hquery]
    rw [RequestLine.withTarget, h.path.dropWhile_space h.path_ne_nil]
    simp only [takeWhile_append_cons hpath hend, dropWhile_append_cons hpath hend]
    rw [if_neg (by decide), RequestLine.withProtocol_eq _ h.protocol h.slash_not_mem h.version]
    rfl
  | some query =>
    have hend : RequestLine.isPathByte RequestLine.questionMark = false := by decide
    have htoken := h.query query hquery
    simp only [RequestText.target, hquery, List.append_assoc, List.cons_append]
    rw [RequestLine.withTarget, h.path.dropWhile_space h.path_ne_nil]
    simp only [takeWhile_append_cons hpath hend, dropWhile_append_cons hpath hend, if_true]
    rw [RequestLine.withQuery, htoken.dropWhile_append (h.query_ne_nil query hquery)]
    simp only [takeWhile_append_cons htoken.isTokenByte hspace,
      dropWhile_append_cons htoken.isTokenByte hspace]
    rw [RequestLine.withProtocol_eq _ h.protocol h.slash_not_mem h.version]
    rfl

/-- The first line is one line. -/
theorem isLine_firstLine : Bytes.IsLine text.firstLine := by
  have htarget : Bytes.IsLine text.target := by
    rw [RequestText.target]
    cases hquery : text.query with
    | none => exact h.path.isLine
    | some query =>
      simp only [Bytes.isLine_append, Bytes.isLine_cons]
      exact ⟨h.path.isLine, by decide, (h.query query hquery).isLine⟩
  simp only [RequestText.firstLine, Bytes.isLine_append, Bytes.isLine_cons]
  exact ⟨h.method.isLine, by decide, htarget, by decide, h.protocol.isLine, by decide,
    h.version.isLine⟩

/-- The lines of the text make a head. -/
theorem isHead : IsHead text.firstLine (text.headers.map HeaderLine.bytes) where
  isLine := h.isLine_firstLine
  isHeader := by
    rw [List.forall_mem_map]
    exact fun header hmem => (h.headers header hmem).isHeader
  isText := h.isText

/-- Of several lines with one header the first counts. -/
theorem findSome?_headerValue? (header : HeaderName) :
    (text.headers.map HeaderLine.bytes).findSome? (headerValue? header.bytes) =
      text.value? header := by
  have heach := h.headers
  rw [RequestText.value?]
  generalize text.headers = headers at heach
  induction headers with
  | nil => rfl
  | cons line headers ih =>
    rw [List.forall_mem_cons] at heach
    rw [List.map_cons, List.findSome?_cons, List.findSome?_cons, heach.1.headerValue?_eq header,
      ih heach.2]

end RequestText.IsWellFormed

/-- A request is read back from its head, whatever follows the blank line: its first line in parts,
with no query if it has none, and of `Host` and `Authorization` the first value, if there is one.
The head is found to end where it does. -/
theorem RequestText.parse_bytes (text : RequestText) (h : text.IsWellFormed) (rest : Bytes) :
    Request.parse (text.bytes ++ blankLine ++ rest) = text.request ∧
      headEnd? (text.bytes ++ blankLine ++ rest) = some text.bytes.length := by
  refine ⟨?_, h.isHead.headEnd?_eq rest⟩
  rw [RequestText.bytes, h.isHead.parse_eq, Request.ofLines, h.parse_firstLine]
  have hhost : (text.headers.map HeaderLine.bytes).findSome? (headerValue? (.ofString "host:")) =
      text.value? .host := h.findSome?_headerValue? .host
  have hauthorization : (text.headers.map HeaderLine.bytes).findSome?
      (headerValue? (.ofString "authorization:")) = text.value? .authorization :=
    h.findSome?_headerValue? .authorization
  rw [hhost, hauthorization]
  rfl

section LiveRequest

/-- A request for a stream with two `Host` headers, of which only the first counts. -/
def liveRequest : RequestText where
  method := .ofString "GET"
  path := .ofString "/été/0"
  query := some (.ofString "fps=5?")
  protocol := .ofString "HTTP"
  version := .ofString "1.1"
  headers := [
    .other (.ofString "Accept: */*"),
    .known .host (.ofString "hOST:") [9, 32] (.ofString "cam.local") [32],
    .known .authorization (.ofString "Authorization:") [] (.ofString "Basic dTpw") [],
    .known .host (.ofString "Host:") [32] (.ofString "elsewhere") []]

/-- The lines of the request, as they are sent. -/
def liveRequestLines : String :=
  "GET /été/0?fps=5? HTTP/1.1\x0d\nAccept: */*\x0d\nhOST:\t cam.local \x0d\n" ++
    "Authorization:Basic dTpw\x0d\nHost: elsewhere"

/-- The request is read back, although more bytes and another blank line follow its own. -/
theorem RequestText.parse_bytes_live :
    liveRequest.IsWellFormed ∧ liveRequest.bytes = .ofString liveRequestLines ∧
      liveRequest.request.host = some (.ofString "cam.local") ∧
      Request.parse (liveRequest.bytes ++ blankLine ++ 255 :: blankLine) = liveRequest.request ∧
      headEnd? (liveRequest.bytes ++ blankLine ++ 255 :: blankLine) =
        some liveRequest.bytes.length := by
  have hbytes : liveRequest.bytes = .ofString liveRequestLines := by decide +kernel
  have hheaders : ∀ header ∈ liveRequest.headers, header.IsWellFormed := by
    simp only [liveRequest, List.forall_mem_cons]
    refine ⟨?_, ?_, ?_, ?_, nofun⟩
    · exact .other ⟨by decide +kernel, by decide +kernel, by decide +kernel⟩ fun header => by
        cases header <;> decide +kernel
    all_goals
      constructor <;> decide +kernel
  have hwellFormed : liveRequest.IsWellFormed :=
    { method := by decide +kernel
      path := by decide +kernel
      path_ne_nil := by decide +kernel
      questionMark_not_mem := by decide +kernel
      query := by decide +kernel
      query_ne_nil := by decide +kernel
      protocol := by decide +kernel
      slash_not_mem := by decide +kernel
      version := by decide +kernel
      headers := hheaders
      isText := ⟨_, hbytes⟩ }
  exact ⟨hwellFormed, hbytes, by decide +kernel,
    liveRequest.parse_bytes hwellFormed (255 :: blankLine)⟩

end LiveRequest

end MotionJpeg.Http
